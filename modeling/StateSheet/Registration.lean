import StateSheet.Text.Distinct
import StateSheet.ClassName
import StateSheet.Notice

/-!
# Registrations

The variants that a list of class names calls for. Each variant name that a
class leads with counts once, where it first occurs: it is registered when it
can be read, noted when it lacks a state, and passed over when it is no
variant name at all.
-/

set_option autoImplicit false

namespace StateSheet

/-- A variant name and the first class that leads with it. -/
structure Occurrence where
  token : Text
  className : Text
deriving DecidableEq, Repr

/-- The variant names that classes lead with, each where it first occurs. -/
def occurrences (classes : List Text) : List Occurrence :=
  distinctBy (·.token)
    (classes.filterMap fun className =>
      (ClassName.leading? className).map fun token => { token, className })

/-- What the variant names of a class list amount to. -/
structure Registration where
  /-- The variants, with the names they are registered under. -/
  variants : List (Text × Variant)
  /-- The variant names without a state. -/
  emptyStates : List Occurrence
deriving DecidableEq, Repr

namespace Registration

/-- The registration that a class list calls for. -/
def ofClasses (classes : List Text) : Registration where
  variants := (occurrences classes).filterMap fun occurrence =>
    (Variant.read? occurrence.token).map fun variant => (occurrence.token, variant)
  emptyStates := (occurrences classes).filter fun occurrence =>
    Variant.lacksState occurrence.token

/-- The names registered, in their order. -/
def names (registration : Registration) : List Text := registration.variants.map (·.1)

/-- Hands every variant to a host, in order. -/
def addTo {η : Type} (registration : Registration) (add : η → Text → Variant → η) (host : η) : η :=
  registration.variants.foldl (fun grown entry => add grown entry.1 entry.2) host

/-- The warnings about variant names without a state, unless they are turned
off. -/
def warnings (registration : Registration) (warn : Bool) : List Notice :=
  if warn then
    registration.emptyStates.map fun occurrence =>
      .emptyState occurrence.token occurrence.className
  else []

end Registration

end StateSheet
