import StateSheet.Toml.Value

/-!
# Reading and writing moments

A day is written with four digits for the year and two each for the month and
the day; a time with two digits each for the hour, the minute and the second,
and perhaps a fraction of a second; an offset as a letter or as signed hours
and minutes. Only days that exist are read, and the second may be a leap
second. Fractions beyond the nanosecond are cut off.
-/

set_option autoImplicit false

namespace StateSheet.Toml

/-! ## Reading -/

/-- The value of decimal digits. -/
def digitsValue (digits : Text) : Nat :=
  digits.foldl (fun value digit => 10 * value + (digit.toNat - '0'.toNat)) 0

/-- The value of as many digits as given at the start of a text, and what
follows them. -/
def readDigits? (count : Nat) (text : Text) : Option (Nat × Text) :=
  let digits := text.take count
  if digits.length = count ∧ digits.all Char.isDigit then
    some (digitsValue digits, text.drop count)
  else none

/-- What follows a given character at the start of a text. -/
def readChar? (c : Char) : Text → Option Text
  | [] => none
  | found :: rest => if found = c then some rest else none

/-- How many days a month has. -/
def daysInMonth (year month : Nat) : Nat :=
  if month = 2 then
    if year % 4 = 0 ∧ (year % 100 ≠ 0 ∨ year % 400 = 0) then 29 else 28
  else if month = 4 ∨ month = 6 ∨ month = 9 ∨ month = 11 then 30
  else 31

/-- A day at the start of a text, and what follows it. -/
def readDate? (text : Text) : Option (Date × Text) := do
  let (year, text) ← readDigits? 4 text
  let text ← readChar? '-' text
  let (month, text) ← readDigits? 2 text
  let text ← readChar? '-' text
  let (day, text) ← readDigits? 2 text
  if 1 ≤ month ∧ month ≤ 12 ∧ 1 ≤ day ∧ day ≤ daysInMonth year month then
    some ({ year, month, day }, text)
  else none

/-- The nanoseconds that the digits of a fraction of a second stand for. -/
def nanoseconds (digits : Text) : Nat :=
  let kept := digits.take 9
  digitsValue kept * Nat.pow 10 (9 - kept.length)

/-- The fraction of a second at the start of a text, if there is one, and what
follows it. -/
def readFraction? (text : Text) : Option (Nat × Text) :=
  match text with
  | '.' :: rest =>
      let digits := rest.takeWhile Char.isDigit
      if digits = [] then none else some (nanoseconds digits, rest.dropWhile Char.isDigit)
  | _ => some (0, text)

/-- A time of day at the start of a text, and what follows it. -/
def readTime? (text : Text) : Option (Time × Text) := do
  let (hour, text) ← readDigits? 2 text
  let text ← readChar? ':' text
  let (minute, text) ← readDigits? 2 text
  let text ← readChar? ':' text
  let (second, text) ← readDigits? 2 text
  let (nanosecond, text) ← readFraction? text
  if hour ≤ 23 ∧ minute ≤ 59 ∧ second ≤ 60 then
    some ({ hour, minute, second, nanosecond }, text)
  else none

/-- The offset that a text makes, if it makes one. -/
def readOffset? (text : Text) : Option Offset :=
  match text with
  | ['Z'] | ['z'] => some .universal
  | sign :: rest =>
      if sign = '+' ∨ sign = '-' then do
        let (hours, rest) ← readDigits? 2 rest
        let rest ← readChar? ':' rest
        let (minutes, rest) ← readDigits? 2 rest
        if rest = [] ∧ hours ≤ 23 ∧ minutes ≤ 59 then
          some (.minutes (sign == '-') (60 * hours + minutes))
        else none
      else none
  | [] => none

/-- The time and the offset that a text makes behind a day. -/
def readTimeOfDay? (date : Date) (text : Text) : Option Moment :=
  match readTime? text with
  | none => none
  | some (time, []) => some (.dateTime date time none)
  | some (time, offset) => (readOffset? offset).map fun offset => .dateTime date time (some offset)

/-- The moment that a text without blanks makes, if it makes one. -/
def Moment.read? (text : Text) : Option Moment :=
  match readDate? text with
  | some (day, []) => some (.date day)
  | some (day, c :: rest) => if c = 'T' ∨ c = 't' then readTimeOfDay? day rest else none
  | none =>
      match readTime? text with
      | some (clock, []) => some (.time clock)
      | _ => none

/-! ## Writing -/

/-- A number with at least the given count of digits. -/
def padded (count value : Nat) : Text :=
  let digits := Nat.toDigits 10 value
  List.replicate (count - digits.length) '0' ++ digits

/-- The text of a day. -/
def Date.render (date : Date) : Text :=
  padded 4 date.year ++ ['-'] ++ padded 2 date.month ++ ['-'] ++ padded 2 date.day

/-- The text of a time of day, with no more digits of the fraction than it
needs. -/
def Time.render (time : Time) : Text :=
  let fraction :=
    if time.nanosecond = 0 then []
    else '.' :: ((padded 9 time.nanosecond).reverse.dropWhile (· == '0')).reverse
  padded 2 time.hour ++ [':'] ++ padded 2 time.minute ++ [':'] ++ padded 2 time.second ++ fraction

/-- The text of an offset. No distance is written as one ahead. -/
def Offset.render : Offset → Text
  | universal => ['Z']
  | minutes behind distance =>
      let sign := if behind ∧ distance ≠ 0 then '-' else '+'
      [sign] ++ padded 2 (distance / 60) ++ [':'] ++ padded 2 (distance % 60)

/-- The text of a moment. -/
def Moment.render : Moment → Text
  | date day => day.render
  | time clock => clock.render
  | dateTime day clock offset? =>
      day.render ++ ['T'] ++ clock.render ++ (offset?.map Offset.render).getD []

end StateSheet.Toml
