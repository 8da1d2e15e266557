import StateSheet.Toml.Moment

/-!
# Reading numbers

Integers are decimal, or hexadecimal, octal or binary behind a zero and a
letter, and fit into 64 bits with a sign. Floats have a fraction, an exponent
or both, or are an infinity or no number at all. Digits may be grouped by
single underscores between them. A float beyond the largest finite one is
refused unless it is negative.
-/

set_option autoImplicit false

namespace StateSheet.Toml

/-- The digits of a text in which single underscores may stand between
digits. -/
def digitGroups? (isDigit : Char → Bool) : Text → Option Text
  | [] => none
  | [c] => if isDigit c then some [c] else none
  | c :: '_' :: rest => if isDigit c then (digitGroups? isDigit rest).map (c :: ·) else none
  | c :: rest => if isDigit c then (digitGroups? isDigit rest).map (c :: ·) else none

/-- The value of a digit of a base up to sixteen. -/
def digitValue (c : Char) : Nat :=
  if c.isDigit then c.toNat - '0'.toNat
  else if 'a' ≤ c ∧ c ≤ 'f' then c.toNat - 'a'.toNat + 10
  else c.toNat - 'A'.toNat + 10

/-- Is a character a digit of a base up to sixteen? -/
def isDigitOf (base : Nat) (c : Char) : Bool :=
  (c.isDigit || ('a' ≤ c && c ≤ 'f') || ('A' ≤ c && c ≤ 'F')) && digitValue c < base

/-- The value of digits of a base. -/
def valueOf (base : Nat) (digits : Text) : Nat :=
  digits.foldl (fun value digit => base * value + digitValue digit) 0

/-- The least number too large for a positive integer. -/
def integerLimit : Nat := 0x8000000000000000

/-- The integer that digits of a base make. -/
def readBased? (base : Nat) (text : Text) : Option Value :=
  match digitGroups? (isDigitOf base) text with
  | none => none
  | some digits =>
      let value := valueOf base digits
      if value < integerLimit then some (.integer value) else none

/-- The digits of a whole number without needless zeros. -/
def wholeDigits? (text : Text) : Option Text :=
  match digitGroups? Char.isDigit text with
  | some ('0' :: _ :: _) => none
  | digits? => digits?

/-- The exponent that a text makes behind its letter. -/
def readExponent? (text : Text) : Option Int :=
  let digits := if text.head? = some '+' ∨ text.head? = some '-' then text.tail else text
  (digitGroups? Char.isDigit digits).map fun digits =>
    if text.head? = some '-' then -(digitsValue digits : Int) else digitsValue digits

/-- Does a decimal, given by its digits and the exponent of its last digit,
round to an infinity? The bound is half a step above the largest finite
value. -/
def overflows (digits : Text) (exponent : Int) : Bool :=
  let significant := digits.dropWhile (· == '0')
  let magnitude : Int := significant.length + exponent
  if significant = [] then false
  else if magnitude > 310 then true
  else if magnitude < 300 then false
  else
    let bound := Nat.pow 2 1024 - Nat.pow 2 970
    let value := digitsValue significant
    if 0 ≤ exponent then bound ≤ value * Nat.pow 10 exponent.toNat
    else bound * Nat.pow 10 (-exponent).toNat ≤ value

/-- The number that a text makes behind its sign. -/
def readDecimal? (negative : Bool) (text : Text) : Option Value := do
  let isPart := fun c : Char => c.isDigit || c == '_'
  let whole ← wholeDigits? (text.takeWhile isPart)
  let rest := text.dropWhile isPart
  if rest = [] then
    let value := digitsValue whole
    if negative then if value ≤ integerLimit then some (.integer (-value)) else none
    else if value < integerLimit then some (.integer value)
    else none
  else
    let (fraction, rest) ←
      match rest with
      | '.' :: rest => do
          let fraction ← digitGroups? Char.isDigit (rest.takeWhile isPart)
          some (fraction, rest.dropWhile isPart)
      | _ => some ([], rest)
    let exponent ←
      match rest with
      | [] => some 0
      | letter :: rest => if letter = 'e' ∨ letter = 'E' then readExponent? rest else none
    if !negative && overflows (whole ++ fraction) (exponent - fraction.length) then none
    else some (.float text)

/-- The number that a text without blanks makes, if it makes one. -/
def readNumber? (text : Text) : Option Value :=
  match text with
  | '0' :: 'x' :: digits => readBased? 16 digits
  | '0' :: 'o' :: digits => readBased? 8 digits
  | '0' :: 'b' :: digits => readBased? 2 digits
  | _ =>
      let signed := text.head? = some '+' ∨ text.head? = some '-'
      let unsigned := if signed then text.tail else text
      if unsigned = ['i', 'n', 'f'] ∨ unsigned = ['n', 'a', 'n'] then some (.float text)
      else readDecimal? (text.head? == some '-') unsigned

end StateSheet.Toml
