import StateSheet.Toml.Number
import StateSheet.Toml.Trivia

/-!
# Reading strings

A string stands between single or double quotes. Between double quotes a
backslash starts an escape; between single quotes every character stands for
itself. A string between three quotes may hold line ends, which are read as
line feeds: one directly behind the opening quotes is dropped, a backslash at
the end of a line drops the blanks and line ends that follow, and up to two
more quotes in front of the closing ones belong to the string.
-/

set_option autoImplicit false

namespace StateSheet.Toml

/-! ## Escapes -/

/-- The character with the code point that the given count of hexadecimal
digits at the start of a text makes, and what follows them. -/
def readCodePoint? (count : Nat) (text : Text) : Option (Char × Text) :=
  let digits := text.take count
  let value := valueOf 16 digits
  if digits.length = count ∧ digits.all (isDigitOf 16) ∧ value.isValidChar then
    some (Char.ofNat value, text.drop count)
  else none

/-- The character that an escape stands for, and what follows it. The backslash
has been read. -/
def readEscape? : Text → Option (Char × Text)
  | 'b' :: rest => some ('\x08', rest)
  | 't' :: rest => some ('\t', rest)
  | 'n' :: rest => some ('\n', rest)
  | 'f' :: rest => some ('\x0c', rest)
  | 'r' :: rest => some ('\r', rest)
  | '"' :: rest => some ('"', rest)
  | '\\' :: rest => some ('\\', rest)
  | 'u' :: rest => readCodePoint? 4 rest
  | 'U' :: rest => readCodePoint? 8 rest
  | _ => none

theorem length_le_of_readCodePoint? {count : Nat} {text rest : Text} {c : Char}
    (found : readCodePoint? count text = some (c, rest)) : rest.length ≤ text.length := by
  simp only [readCodePoint?] at found
  split at found
  · simp only [Option.some.injEq, Prod.mk.injEq] at found
    simp [← found.2]
  · simp at found

theorem length_lt_of_readEscape? {text rest : Text} {c : Char}
    (found : readEscape? text = some (c, rest)) : rest.length < text.length := by
  unfold readEscape? at found
  split at found
  case h_8 behind | h_9 behind =>
    have := length_le_of_readCodePoint? found
    simp only [List.length_cons]
    omega
  case h_10 => simp at found
  all_goals
    simp only [Option.some.injEq, Prod.mk.injEq] at found
    simp [← found.2]

/-! ## Strings on one line -/

/-- The rest of a string in double quotes behind what was read of it already
(held in reverse), and what follows its closing quote. -/
def readBasicAfter (begun : Text) (text : Text) : Option (Text × Text) :=
  match text with
  | [] => none
  | '"' :: rest => some (begun.reverse, rest)
  | '\\' :: rest =>
      match found : readEscape? rest with
      | none => none
      | some (c, after) =>
          have := length_lt_of_readEscape? found
          readBasicAfter (c :: begun) after
  | c :: rest => if isPrintable c then readBasicAfter (c :: begun) rest else none
termination_by text.length

theorem length_lt_of_readBasicAfter {begun text body rest : Text}
    (found : readBasicAfter begun text = some (body, rest)) : rest.length < text.length := by
  fun_induction readBasicAfter begun text with
  | case1 => simp at found
  | case2 begun behind =>
      simp only [Option.some.injEq, Prod.mk.injEq] at found
      simp [← found.2]
  | case3 => simp at found
  | case4 begun behind c after escape progress ih =>
      have shorter := ih found
      simp only [List.length_cons]
      omega
  | case5 begun c behind _ _ _ ih =>
      have shorter := ih found
      simp only [List.length_cons]
      omega
  | case6 => simp at found

/-- A string in single quotes, and what follows its closing quote. -/
def readLiteral? (text : Text) : Option (Text × Text) :=
  match text.cut? '\'' with
  | none => none
  | some (body, rest) => if body.all isPrintable then some (body, rest) else none

theorem length_lt_of_readLiteral? {text body rest : Text}
    (found : readLiteral? text = some (body, rest)) : rest.length < text.length := by
  unfold readLiteral? at found
  split at found
  · simp at found
  · rename_i before after cut
    split at found
    · simp only [Option.some.injEq, Prod.mk.injEq] at found
      rw [Text.eq_of_cut?_eq_some cut, ← found.2]
      simp only [List.length_append, List.length_cons]
      omega
    · simp at found

/-! ## Strings on several lines -/

/-- A text without the line end at its start. -/
def skipNewline (text : Text) : Text := (newline? text).getD text

/-- A text without the blanks and line ends at its start. -/
def skipBlankLines : Text → Text
  | '\n' :: rest => skipBlankLines rest
  | '\r' :: '\n' :: rest => skipBlankLines rest
  | c :: rest => if isSpace c then skipBlankLines rest else c :: rest
  | [] => []

/-- What follows a backslash that continues a string on a later line. -/
def continuation? (text : Text) : Option Text := (newline? (skipSpaces text)).map skipBlankLines

/-- What was read of a string (in reverse) with the quotes in front of its
closing quotes, and what follows these. -/
def closing (quote : Char) (begun : Text) (text : Text) : Text × Text :=
  match text with
  | first :: second :: rest =>
      if first = quote ∧ second = quote then ((quote :: quote :: begun).reverse, rest)
      else if first = quote then ((quote :: begun).reverse, second :: rest)
      else (begun.reverse, text)
  | [first] => if first = quote then ((quote :: begun).reverse, []) else (begun.reverse, text)
  | [] => (begun.reverse, [])

theorem length_skipNewline_le (text : Text) : (skipNewline text).length ≤ text.length := by
  unfold skipNewline
  cases found : newline? text with
  | none => simp
  | some rest => simpa using Nat.le_of_lt (length_lt_of_newline? found)

theorem length_skipBlankLines_le (text : Text) : (skipBlankLines text).length ≤ text.length := by
  fun_induction skipBlankLines text <;> grind

theorem length_le_of_continuation? {text rest : Text} (found : continuation? text = some rest) :
    rest.length ≤ text.length := by
  simp only [continuation?, Option.map_eq_some_iff] at found
  obtain ⟨after, ended, rfl⟩ := found
  have atEnd := length_lt_of_newline? ended
  have atStart := length_skipSpaces_le text
  have blank := length_skipBlankLines_le after
  omega

theorem length_closing_le (quote : Char) (begun text : Text) :
    (closing quote begun text).2.length ≤ text.length := by
  unfold closing
  split
  · split
    · simp only [List.length_cons]; omega
    · split <;> simp
  · split <;> simp
  · simp

/-- The rest of a string in three double quotes behind what was read of it
already (held in reverse), and what follows its closing quotes. -/
def readLongBasicAfter (begun : Text) (text : Text) : Option (Text × Text) :=
  match text with
  | [] => none
  | '"' :: '"' :: '"' :: rest => some (closing '"' begun rest)
  | '\n' :: rest => readLongBasicAfter ('\n' :: begun) rest
  | '\r' :: '\n' :: rest => readLongBasicAfter ('\n' :: begun) rest
  | '\\' :: rest =>
      match continued : continuation? rest with
      | some after =>
          have := length_le_of_continuation? continued
          readLongBasicAfter begun after
      | none =>
          match found : readEscape? rest with
          | none => none
          | some (c, after) =>
              have := length_lt_of_readEscape? found
              readLongBasicAfter (c :: begun) after
  | c :: rest => if isPrintable c then readLongBasicAfter (c :: begun) rest else none
termination_by text.length

theorem length_lt_of_readLongBasicAfter {begun text body rest : Text}
    (found : readLongBasicAfter begun text = some (body, rest)) : rest.length < text.length := by
  fun_induction readLongBasicAfter begun text with
  | case1 => simp at found
  | case2 begun behind =>
      have closed := length_closing_le '"' begun behind
      simp only [Option.some.injEq] at found
      simp only [found] at closed
      simp only [List.length_cons]
      omega
  | case3 begun behind ih | case4 begun behind ih =>
      have shorter := ih found
      simp only [List.length_cons]
      omega
  | case5 begun behind after continued progress ih =>
      have shorter := ih found
      simp only [List.length_cons]
      omega
  | case6 => simp at found
  | case7 begun behind continued c after escape progress ih =>
      have shorter := ih found
      simp only [List.length_cons]
      omega
  | case8 begun c behind _ _ _ _ _ ih =>
      have shorter := ih found
      simp only [List.length_cons]
      omega
  | case9 => simp at found

/-- The rest of a string in three single quotes behind what was read of it
already (held in reverse), and what follows its closing quotes. -/
def readLongLiteralAfter (begun : Text) : Text → Option (Text × Text)
  | [] => none
  | '\'' :: '\'' :: '\'' :: rest => some (closing '\'' begun rest)
  | '\n' :: rest => readLongLiteralAfter ('\n' :: begun) rest
  | '\r' :: '\n' :: rest => readLongLiteralAfter ('\n' :: begun) rest
  | c :: rest => if isPrintable c then readLongLiteralAfter (c :: begun) rest else none

theorem length_lt_of_readLongLiteralAfter {begun text body rest : Text}
    (found : readLongLiteralAfter begun text = some (body, rest)) :
    rest.length < text.length := by
  fun_induction readLongLiteralAfter begun text with
  | case1 => simp at found
  | case2 begun behind =>
      have closed := length_closing_le '\'' begun behind
      simp only [Option.some.injEq] at found
      simp only [found] at closed
      simp only [List.length_cons]
      omega
  | case3 begun behind ih | case4 begun behind ih =>
      have shorter := ih found
      simp only [List.length_cons]
      omega
  | case5 begun c behind _ _ _ _ ih =>
      have shorter := ih found
      simp only [List.length_cons]
      omega
  | case6 => simp at found

/-! ## All strings -/

/-- A string of either kind at the start of a text, and what follows it. -/
def readString? : Text → Option (Text × Text)
  | '"' :: '"' :: '"' :: rest => readLongBasicAfter [] (skipNewline rest)
  | '\'' :: '\'' :: '\'' :: rest => readLongLiteralAfter [] (skipNewline rest)
  | '"' :: rest => readBasicAfter [] rest
  | '\'' :: rest => readLiteral? rest
  | _ => none

theorem length_lt_of_readString? {text body rest : Text}
    (found : readString? text = some (body, rest)) : rest.length < text.length := by
  unfold readString? at found
  split at found
  · rename_i behind
    have skipped := length_skipNewline_le behind
    have shorter := length_lt_of_readLongBasicAfter found
    simp only [List.length_cons]
    omega
  · rename_i behind
    have skipped := length_skipNewline_le behind
    have shorter := length_lt_of_readLongLiteralAfter found
    simp only [List.length_cons]
    omega
  · have shorter := length_lt_of_readBasicAfter found
    simp only [List.length_cons]
    omega
  · have shorter := length_lt_of_readLiteral? found
    simp only [List.length_cons]
    omega
  · simp at found

end StateSheet.Toml
