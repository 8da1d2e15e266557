import StateSheet.Variant.Basic

/-!
# Reading variant names

A variant name is read from the left: the mark that every variant name starts
with, an optional negation, an optional relation, and the state, which is all
that is left and must not be empty. Each optional part is looked for once, so
a state may itself start with what looks like another part.
-/

set_option autoImplicit false

namespace StateSheet

/-- Why a token is not the name of a variant. -/
inductive VariantFault where
  /-- The token lacks the mark of a variant name. -/
  | foreign (token : Text)
  /-- Nothing is left for the state. -/
  | emptyState (token : Text)
deriving DecidableEq, Repr

/-- The message that reports a fault. -/
def VariantFault.message : VariantFault → Text
  | .foreign token => ['`'] ++ token ++ "` is not a ui- variant".toList
  | .emptyState token => ['`'] ++ token ++ "` has no state name".toList

namespace Variant

/-- What every variant name starts with. -/
def mark : Text := ['u', 'i', '-']

/-- A negation at the start of a text, and what follows it. -/
def readNegation (text : Text) : Bool × Text :=
  match Text.dropPrefix? ['n', 'o', 't', '-'] text with
  | some rest => (true, rest)
  | none => (false, text)

/-- A relation at the start of a text, and what follows it. Without one the
variant looks at the element itself. -/
def readRelation (text : Text) : Relation × Text :=
  match Text.dropPrefix? ['g', 'r', 'o', 'u', 'p', '-'] text with
  | some rest => (.group, rest)
  | none =>
      match Text.dropPrefix? ['p', 'e', 'e', 'r', '-'] text with
      | some rest => (.peer, rest)
      | none => (.self, text)

/-- The variant that a token names. -/
def read (token : Text) : Except VariantFault Variant :=
  match Text.dropPrefix? mark token with
  | none => .error (.foreign token)
  | some unmarked =>
      let (negated, positive) := readNegation unmarked
      let (relation, state) := readRelation positive
      if state = [] then .error (.emptyState token)
      else .ok { relation, negated, state }

/-- The variant that a token names, if it names one. -/
def read? (token : Text) : Option Variant := (read token).toOption

/-- Does a token start like a variant name and leave nothing for the state? -/
def lacksState (token : Text) : Bool :=
  match read token with
  | .error (.emptyState _) => true
  | _ => false

end Variant

end StateSheet
