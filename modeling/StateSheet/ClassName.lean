import StateSheet.Text.Nesting
import StateSheet.Variant.Reader

/-!
# Class names

A class name that depends on a state is a variant name, a colon and the
utility that applies in that state. The colon is the first one that stands
outside all brackets and parentheses, since a variant or a utility may hold
further colons inside them.
-/

set_option autoImplicit false

namespace StateSheet.ClassName

/-- The parts before and after the first colon at the top, when the text
continues one with the given nesting. -/
def splitWithin? (nesting : Nesting) : Text → Option (Text × Text)
  | [] => none
  | c :: rest =>
      if c = ':' ∧ nesting.isTop = true then some ([], rest)
      else (splitWithin? (nesting.step c) rest).map fun parts => (c :: parts.1, parts.2)

/-- The variant name and the utility of a class name. -/
def split? (className : Text) : Option (Text × Text) := splitWithin? {} className

/-- The variant name that a class name leads with. -/
def leading? (className : Text) : Option Text := (split? className).map (·.1)

/-- The variant that a class name depends on. -/
def variant? (className : Text) : Option Variant := (leading? className).bind Variant.read?

/-- Does a class name lead with a variant name without a state? -/
def lacksState (className : Text) : Bool :=
  match leading? className with
  | some token => Variant.lacksState token
  | none => false

end StateSheet.ClassName
