import StateSheet.Toml.Progress
import StateSheet.Toml.Quoted
import StateSheet.Toml.Table

/-!
# Reading keys and values

A key is a bare word or a string, or several of them with dots between. A value
is a string, an array, a table between braces, or a bare word that makes a
boolean, a number or a moment. A day and a time may also be separated by one
space. Arrays may run over several lines and end in a comma; a table between
braces may do neither.

Arrays and tables may be nested only to a limited depth, which is also what
the recursion of the value reader goes down on.
-/

set_option autoImplicit false

namespace StateSheet.Toml

/-! ## Keys -/

/-- May a character stand in a key without quotes? -/
def isBare (c : Char) : Bool := c.isAlphanum || c == '-' || c == '_'

/-- A stretch of characters at the start of a text, which must not be empty. -/
def readStretch (test : Char → Bool) : Reader Text
  | [] => none
  | c :: rest =>
      if test c then
        some (c :: rest.takeWhile test, ⟨rest.dropWhile test, length_dropWhile_lt test c rest⟩)
      else none

/-- One part of a key. -/
def readKeyPart : Reader Text := fun text =>
  match text with
  | '"' :: rest =>
      match found : readBasicAfter [] rest with
      | none => none
      | some (key, after) => some (key, ⟨after, by
          have := length_lt_of_readBasicAfter found
          simp only [List.length_cons]; omega⟩)
  | '\'' :: rest =>
      match found : readLiteral? rest with
      | none => none
      | some (key, after) => some (key, ⟨after, by
          have := length_lt_of_readLiteral? found
          simp only [List.length_cons]; omega⟩)
  | other => readStretch isBare other

/-- The parts of a key, with the blanks around them. -/
def readKey (text : Text) : Option (List Text × Remaining text) :=
  have atStart := length_skipSpaces_le text
  match readKeyPart (skipSpaces text) with
  | none => none
  | some (part, after) =>
      have atEnd := length_skipSpaces_le after.rest
      match next : skipSpaces after.rest with
      | '.' :: rest =>
          have shorter : rest.length < text.length := by
            have := after.shorter
            simp only [next, List.length_cons] at atEnd
            omega
          match readKey rest with
          | none => none
          | some (parts, last) => some (part :: parts, last.within shorter)
      | rest => some ([part], ⟨rest, by
          have := after.shorter
          simp only [next] at atEnd
          omega⟩)
termination_by text.length

/-- The depth of nesting that is refused, for keys as for values. -/
def nestingLimit : Nat := 80

/-- The path and the last part of a key that is not too deep. -/
def splitKey? (parts : List Text) : Option (List Text × Text) :=
  if nestingLimit ≤ parts.length then none
  else parts.getLast?.map fun last => (parts.dropLast, last)

/-! ## Bare values -/

/-- Does a character belong to a bare value? -/
def isBareValue (c : Char) : Bool :=
  !(isSpace c || ['\n', '\r', '#', ',', ']', '\x7d'].contains c)

/-- The value that a bare word makes. -/
def bareValue? (word : Text) : Option Value :=
  if word = "true".toList then some (.boolean true)
  else if word = "false".toList then some (.boolean false)
  else
    match Moment.read? word with
    | some moment => some (.moment moment)
    | none => readNumber? word

/-- A bare value. A day takes along the time that follows it behind one
space. -/
def readBareValue : Reader Value := fun text =>
  match readStretch isBareValue text with
  | none => none
  | some (word, after) =>
      match bareValue? word with
      | none => none
      | some (.moment (.date date)) =>
          match next : after.rest with
          | ' ' :: rest =>
              match readStretch isBareValue rest with
              | none => some (.moment (.date date), after)
              | some (time, last) =>
                  (readTimeOfDay? date time).map fun moment => (.moment moment, ⟨last.rest, by
                    have atDate := after.shorter
                    have atTime := last.shorter
                    simp only [next, List.length_cons] at atDate
                    omega⟩)
          | _ => some (.moment (.date date), after)
      | some value => some (value, after)

/-- A string as a value. -/
def readTextValue : Reader Value := fun text =>
  match found : readString? text with
  | none => none
  | some (body, rest) => some (.text body, ⟨rest, length_lt_of_readString? found⟩)

/-- A value that holds no further values. -/
def readFlatValue : Reader Value := fun text => readTextValue text <|> readBareValue text

/-! ## Nested values -/

/-- The items of an array behind its opening bracket. -/
def readItems (readItem : Reader Value) (text : Text) :
    Option (List Value × Remaining text) :=
  match opened : skipTrivia? false text with
  | none => none
  | some (']' :: rest) => some ([], ⟨rest, by
      have := length_le_of_skipTrivia? opened
      simp only [List.length_cons] at this
      omega⟩)
  | some start =>
      have atStart := length_le_of_skipTrivia? opened
      match readItem start with
      | none => none
      | some (item, after) =>
          have atItem := after.shorter
          match closed : skipTrivia? false after.rest with
          | some (']' :: rest) => some ([item], ⟨rest, by
              have := length_le_of_skipTrivia? closed
              simp only [List.length_cons] at this
              omega⟩)
          | some (',' :: rest) =>
              have shorter : rest.length < text.length := by
                have := length_le_of_skipTrivia? closed
                simp only [List.length_cons] at this
                omega
              match readItems readItem rest with
              | none => none
              | some (items, last) => some (item :: items, last.within shorter)
          | _ => none
termination_by text.length

/-- A key, an equals sign and a value, with the blanks around them. -/
def readPair (readItem : Reader Value) : Reader (List Text × Value) := fun text =>
  match readKey text with
  | none => none
  | some (key, after) =>
      have atKey := after.shorter
      match sign : after.rest with
      | '=' :: rest =>
          have atSign := length_skipSpaces_le rest
          match readItem (skipSpaces rest) with
          | none => none
          | some (value, last) => some ((key, value), ⟨skipSpaces last.rest, by
              have atValue := last.shorter
              have atEnd := length_skipSpaces_le last.rest
              simp only [sign, List.length_cons] at atKey
              omega⟩)
      | _ => none

/-- The pairs of a table between braces behind its opening brace, when there is
at least one. -/
def readPairs (readItem : Reader Value) (text : Text) :
    Option (List (List Text × Value) × Remaining text) :=
  match readPair readItem text with
  | none => none
  | some (pair, after) =>
      have atPair := after.shorter
      match next : after.rest with
      | '\x7d' :: rest => some ([pair], ⟨rest, by
          simp only [next, List.length_cons] at atPair
          omega⟩)
      | ',' :: rest =>
          have shorter : rest.length < text.length := by
            simp only [next, List.length_cons] at atPair
            omega
          match readPairs readItem rest with
          | none => none
          | some (pairs, last) => some (pair :: pairs, last.within shorter)
      | _ => none
termination_by text.length

/-- The entries that the pairs of a table between braces make. -/
def entriesOfPairs? (pairs : List (List Text × Value)) : Option Entries :=
  pairs.foldlM (fun entries pair => do
    let (path, key) ← splitKey? pair.1
    writeAt path key pair.2 .header entries) []

/-- A value in which arrays and tables are nested no deeper than given. A bracket
or a brace starts no value without others in it. -/
def readValue : Nat → Reader Value
  | 0 => readFlatValue
  | depth + 1 => fun text =>
      match text with
      | '[' :: rest =>
          match readItems (readValue depth) rest with
          | none => none
          | some (items, last) => some (.array items, last.within (Nat.lt_succ_self _))
      | '\x7b' :: rest =>
          match opened : skipSpaces rest with
          | '\x7d' :: after => some (.table .braces [], ⟨after, by
              have := length_skipSpaces_le rest
              simp only [opened, List.length_cons] at this
              simp only [List.length_cons]
              omega⟩)
          | _ =>
              match readPairs (readValue depth) rest with
              | none => none
              | some (pairs, last) =>
                  (entriesOfPairs? pairs).map fun entries =>
                    (.table .braces entries, last.within (Nat.lt_succ_self _))
      | other => readFlatValue other

end StateSheet.Toml
