import StateSheet.Toml.Value

/-!
# Building tables

How a document adds to its tables. A header opens a table, or one more table
of a sequence; a dotted key passes through tables that it creates where they
are missing. What is written once cannot be written again, a table between
braces is complete, and a dotted key does not reach into a table that a header
opened.
-/

set_option autoImplicit false

namespace StateSheet.Toml

namespace Entries

/-- The value at a key. -/
def get? (key : Text) : Entries → Option Value
  | [] => none
  | entry :: rest => if entry.1 = key then some entry.2 else get? key rest

/-- The entries with a value written at a key, in place of the one there or
behind all others. -/
def put (key : Text) (value : Value) : Entries → Entries
  | [] => [(key, value)]
  | entry :: rest =>
      if entry.1 = key then (key, value) :: rest else entry :: put key value rest

end Entries

/-- How a path leads to a table. -/
inductive Approach where
  /-- The path is the part of a header in front of its last key, or leads to
  the table that is open. -/
  | header
  /-- The path is the part of a dotted key in front of its last key. -/
  | dotted
deriving DecidableEq, Repr

/-- The origin of the tables that a path creates on its way. -/
def Approach.origin : Approach → TableOrigin
  | header => .passed
  | dotted => .dotted

/-- Changes the table that a path leads to, starting from a table of the given
origin. In a sequence of tables the path goes on in the one that is open. -/
def changeAt (approach : Approach) (change : TableOrigin → Entries → Option Entries) :
    List Text → TableOrigin → Entries → Option Entries
  | [], origin, entries => change origin entries
  | key :: path, _, entries =>
      match entries.get? key with
      | none =>
          (changeAt approach change path approach.origin []).map fun created =>
            entries.put key (.table approach.origin created)
      | some (.table origin inner) =>
          if origin = .braces ∨ (approach = .dotted ∧ origin = .header) then none
          else
            (changeAt approach change path origin inner).map fun changed =>
              entries.put key (.table origin changed)
      | some (.tables completed opened) =>
          (changeAt approach change path .header opened).map fun changed =>
            entries.put key (.tables completed changed)
      | some _ => none

/-- Writes a value at a key that is still free. A dotted key writes only into a
table that dotted keys made, and a plain key never into one. -/
def writeValue (isDotted : Bool) (key : Text) (value : Value) (origin : TableOrigin)
    (entries : Entries) : Option Entries :=
  if isDotted ≠ decide (origin = .dotted) then none
  else
    match entries.get? key with
    | some _ => none
    | none => some (entries.put key value)

/-- Writes a value at a dotted key of a table. The key is given by the path in
front of its last part, and that part. -/
def writeAt (path : List Text) (key : Text) (value : Value) (origin : TableOrigin)
    (entries : Entries) : Option Entries :=
  changeAt .dotted (writeValue (!path.isEmpty) key value) path origin entries

/-- Opens the table that a header names by its last key. A table that was only
passed through so far can be opened. -/
def openTable (key : Text) (_ : TableOrigin) (entries : Entries) : Option Entries :=
  match entries.get? key with
  | none => some (entries.put key (.table .header []))
  | some (.table .passed inner) => some (entries.put key (.table .header inner))
  | some _ => none

/-- Opens one more table of the sequence that a header names by its last key. -/
def openNext (key : Text) (_ : TableOrigin) (entries : Entries) : Option Entries :=
  match entries.get? key with
  | none => some (entries.put key (.tables [] []))
  | some (.tables completed opened) => some (entries.put key (.tables (opened :: completed) []))
  | some _ => none

end StateSheet.Toml
