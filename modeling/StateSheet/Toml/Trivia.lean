import StateSheet.Text.Basic

/-!
# Blanks, comments and line ends

What stands between the parts of a TOML document. Blanks are spaces and tabs; a
comment runs from a hash to the end of its line and holds no control
characters but tabs; a line ends in a line feed, perhaps with a carriage
return before it, and a carriage return stands nowhere else.
-/

set_option autoImplicit false

namespace StateSheet.Toml

/-- Is a character a space or a tab? -/
def isSpace (c : Char) : Bool := c == ' ' || c == '\t'

/-- May a character stand for itself in comments and strings? -/
def isPrintable (c : Char) : Bool := c == '\t' || (0x20 ≤ c.toNat && c.toNat != 0x7F)

/-- A text without the spaces and tabs at its start. -/
def skipSpaces (text : Text) : Text := text.dropWhile isSpace

/-- What follows a line end at the start of a text. -/
def newline? : Text → Option Text
  | '\n' :: rest => some rest
  | '\r' :: '\n' :: rest => some rest
  | _ => none

/-- What follows the end of a line, which may be the end of the text. -/
def lineEnd? (text : Text) : Option Text := if text = [] then some [] else newline? text

/-- A text without the comment at its start. -/
def skipComment (text : Text) : Text :=
  match text with
  | '#' :: rest => rest.dropWhile isPrintable
  | _ => text

/-- What follows the rest of a line that holds nothing more but blanks and a
comment. -/
def restOfLine? (text : Text) : Option Text := lineEnd? (skipComment (skipSpaces text))

/-- A text without the blanks, line ends and comments at its start, from inside
a comment or not. There is none if a comment or a line is not well formed. -/
def skipTrivia? (inComment : Bool) : Text → Option Text
  | [] => if inComment then none else some []
  | '\n' :: rest => skipTrivia? false rest
  | '\r' :: '\n' :: rest => skipTrivia? false rest
  | c :: rest =>
      if inComment then if isPrintable c then skipTrivia? true rest else none
      else if c = '#' then skipTrivia? true rest
      else if isSpace c then skipTrivia? false rest
      else if c = '\r' then none
      else some (c :: rest)

/-! ## Nothing is added -/

theorem length_dropWhile_le (test : Char → Bool) (text : Text) :
    (text.dropWhile test).length ≤ text.length := (List.dropWhile_sublist test).length_le

theorem length_dropWhile_lt (test : Char → Bool) (c : Char) (rest : Text) :
    (rest.dropWhile test).length < (c :: rest).length :=
  Nat.lt_succ_of_le (length_dropWhile_le test rest)

theorem length_skipSpaces_le (text : Text) : (skipSpaces text).length ≤ text.length :=
  length_dropWhile_le isSpace text

theorem length_skipComment_le (text : Text) : (skipComment text).length ≤ text.length := by
  unfold skipComment
  split
  · rename_i rest
    have := length_dropWhile_le isPrintable rest
    simp only [List.length_cons]
    omega
  · exact Nat.le_refl _

theorem length_lt_of_newline? {text rest : Text} (found : newline? text = some rest) :
    rest.length < text.length := by
  unfold newline? at found
  split at found
  · simp only [Option.some.injEq] at found
    simp [found]
  · simp only [Option.some.injEq] at found
    simp only [found, List.length_cons]
    omega
  · simp at found

theorem length_le_of_lineEnd? {text rest : Text} (found : lineEnd? text = some rest) :
    rest.length ≤ text.length := by
  unfold lineEnd? at found
  split at found
  · simp only [Option.some.injEq] at found
    simp [← found]
  · exact Nat.le_of_lt (length_lt_of_newline? found)

theorem length_le_of_restOfLine? {text rest : Text} (found : restOfLine? text = some rest) :
    rest.length ≤ text.length := by
  have atEnd := length_le_of_lineEnd? found
  have atComment := length_skipComment_le (skipSpaces text)
  have atStart := length_skipSpaces_le text
  omega

theorem length_le_of_skipTrivia? {inComment : Bool} {text rest : Text}
    (found : skipTrivia? inComment text = some rest) : rest.length ≤ text.length := by
  fun_induction skipTrivia? inComment text <;> grind

end StateSheet.Toml
