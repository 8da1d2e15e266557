import StateSheet.Toml.Reader

/-!
# Reading documents

A document is read line by line. A line in single brackets opens a table, a
line in double brackets one more table of a sequence, and a line with an equals
sign writes a value into the table that is open. At first the table of the
document itself is open.
-/

set_option autoImplicit false

namespace StateSheet.Toml

/-- A document as far as it has been read: its entries and the path of the
table that is open. -/
structure Document where
  entries : Entries := []
  opened : List Text := []

namespace Document

/-- The document with a header read. -/
def openAt (document : Document) (header : List Text)
    (change : Text → TableOrigin → Entries → Option Entries) : Option Document := do
  let (path, key) ← splitKey? header
  let entries ← changeAt .header (change key) path .header document.entries
  some { entries, opened := header }

/-- The document with a value written into the table that is open. -/
def write (document : Document) (key : List Text) (value : Value) : Option Document := do
  let (path, last) ← splitKey? key
  let entries ← changeAt .header (writeAt path last value) document.opened .header document.entries
  some { document with entries }

/-- The document with the lines of a text added. -/
def addLines (document : Document) (text : Text) : Option Document :=
  have atStart := length_skipSpaces_le text
  match line : skipSpaces text with
  | [] => some document
  | '#' :: comment =>
      match ended : lineEnd? (comment.dropWhile isPrintable) with
      | some rest =>
          have : rest.length < text.length := by
            have atEnd := length_le_of_lineEnd? ended
            have atComment := length_dropWhile_le isPrintable comment
            simp only [line, List.length_cons] at atStart
            omega
          document.addLines rest
      | none => none
  | '[' :: '[' :: header =>
      match readKey header with
      | none => none
      | some (key, after) =>
          match closed : after.rest with
          | ']' :: ']' :: behind =>
              match ended : restOfLine? behind, document.openAt key openNext with
              | some rest, some opened =>
                  have : rest.length < text.length := by
                    have atKey := after.shorter
                    have atEnd := length_le_of_restOfLine? ended
                    simp only [line, closed, List.length_cons] at atStart atKey
                    omega
                  opened.addLines rest
              | _, _ => none
          | _ => none
  | '[' :: header =>
      match readKey header with
      | none => none
      | some (key, after) =>
          match closed : after.rest with
          | ']' :: behind =>
              match ended : restOfLine? behind, document.openAt key openTable with
              | some rest, some opened =>
                  have : rest.length < text.length := by
                    have atKey := after.shorter
                    have atEnd := length_le_of_restOfLine? ended
                    simp only [line, closed, List.length_cons] at atStart atKey
                    omega
                  opened.addLines rest
              | _, _ => none
          | _ => none
  | start =>
      match ended : newline? start with
      | some rest =>
          have : rest.length < text.length := by
            have atEnd := length_lt_of_newline? ended
            simp only [line] at atStart
            omega
          document.addLines rest
      | none =>
          match readPair (readValue (nestingLimit - 1)) start with
          | none => none
          | some ((key, value), after) =>
              match ended : restOfLine? after.rest, document.write key value with
              | some rest, some written =>
                  have : rest.length < text.length := by
                    have atPair := after.shorter
                    have atEnd := length_le_of_restOfLine? ended
                    simp only [line] at atStart
                    omega
                  written.addLines rest
              | _, _ => none
termination_by text.length

/-- The document that a text makes, if it is well formed. A byte order mark at
its start does not count. -/
def read? (text : Text) : Option Document :=
  match text with
  | '\ufeff' :: rest => addLines {} rest
  | _ => addLines {} text

end Document

end StateSheet.Toml
