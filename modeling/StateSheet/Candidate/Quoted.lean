import StateSheet.Text.Basic

/-!
# Quoted bodies

The text between two like quotes. A backslash takes the character after it
into the body, whatever it is, and both are kept. A line end closes off a body
in single or double quotes without completing it; between backticks it belongs
to the body.

What follows a body is shorter than what it was read from
(`length_lt_of_readBody?`), so a scan that goes on behind a body ends.
-/

set_option autoImplicit false

namespace StateSheet.Candidate

/-- Does a character open and close a quoted body? -/
def isQuote (c : Char) : Bool := c == '"' || c == '\'' || c == '`'

/-- The rest of a body in the given quotes, after what was read of it already
(held in reverse), and the text behind its closing quote. -/
def readBodyAfter (quote : Char) (begun : Text) : Text → Option (Text × Text)
  | [] => none
  | ['\\'] => none
  | '\\' :: escaped :: rest => readBodyAfter quote (escaped :: '\\' :: begun) rest
  | c :: rest =>
      if c = quote then some (begun.reverse, rest)
      else if c = '\n' ∧ quote ≠ '`' then none
      else readBodyAfter quote (c :: begun) rest

/-- The body that starts behind an opening quote, and the text behind its
closing quote. -/
def readBody? (quote : Char) (text : Text) : Option (Text × Text) := readBodyAfter quote [] text

/-- What follows a body is shorter than what the body was read from. -/
theorem length_lt_of_readBodyAfter {quote : Char} {begun text body rest : Text}
    (found : readBodyAfter quote begun text = some (body, rest)) :
    rest.length < text.length := by
  fun_induction readBodyAfter quote begun text with
  | case1 => simp at found
  | case2 => simp at found
  | case3 begun escaped after ih =>
      have shorter := ih found
      simp only [List.length_cons]
      omega
  | case4 begun after _ _ =>
      simp only [Option.some.injEq, Prod.mk.injEq] at found
      simp [← found.2]
  | case5 => simp at found
  | case6 begun c after _ _ _ _ ih =>
      have shorter := ih found
      simp only [List.length_cons]
      omega

/-- What follows a body is shorter than what the body was read from. -/
theorem length_lt_of_readBody? {quote : Char} {text body rest : Text}
    (found : readBody? quote text = some (body, rest)) : rest.length < text.length :=
  length_lt_of_readBodyAfter found

/-- The bodies of all string literals of a text, in order. A quote that opens
no complete body is passed over alone. -/
def literals : Text → List Text
  | [] => []
  | c :: rest =>
      if isQuote c then
        match found : readBody? c rest with
        | some (body, after) =>
            have : after.length < rest.length := length_lt_of_readBody? found
            body :: literals after
        | none => literals rest
      else literals rest
termination_by text => text.length

end StateSheet.Candidate
