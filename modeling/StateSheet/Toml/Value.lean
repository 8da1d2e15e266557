import StateSheet.Text.Basic

/-!
# TOML values

The values of a TOML document. A table remembers how it came about, since that
decides whether later parts of the document may add to it. A float is kept as
it was written, as no setting takes a number.
-/

set_option autoImplicit false

namespace StateSheet.Toml

/-! ## Moments -/

/-- A day. -/
structure Date where
  year : Nat
  month : Nat
  day : Nat
deriving DecidableEq, Repr

/-- A time of day. -/
structure Time where
  hour : Nat
  minute : Nat
  second : Nat
  nanosecond : Nat
deriving DecidableEq, Repr

/-- The distance of a local time from universal time. -/
inductive Offset where
  | universal
  | minutes (behind : Bool) (distance : Nat)
deriving DecidableEq, Repr

/-- A day, a time of day, or a day with a time and perhaps an offset. -/
inductive Moment where
  | date (date : Date)
  | time (time : Time)
  | dateTime (date : Date) (time : Time) (offset? : Option Offset)
deriving DecidableEq, Repr

/-! ## Values -/

/-- How a table came about. -/
inductive TableOrigin where
  /-- Written between braces; nothing can be added to it. -/
  | braces
  /-- Opened by a header. -/
  | header
  /-- Passed through by a header, and not opened so far. -/
  | passed
  /-- Passed through by a dotted key. -/
  | dotted
deriving DecidableEq, Repr

/-- A value of a TOML document. -/
inductive Value where
  | text (text : Text)
  | integer (value : Int)
  | float (written : Text)
  | boolean (value : Bool)
  | moment (moment : Moment)
  | array (items : List Value)
  | table (origin : TableOrigin) (entries : List (Text × Value))
  /-- The tables opened one after another by headers in double brackets: those
  completed, the latest first, and the one that is open. -/
  | tables (completed : List (List (Text × Value))) (opened : List (Text × Value))

/-- The entries of a table. -/
abbrev Entries := List (Text × Value)

end StateSheet.Toml
