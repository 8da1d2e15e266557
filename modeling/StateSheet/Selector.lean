import StateSheet.ClassName

/-!
# Selectors

The selector under which a class takes effect: the class itself, with the
condition on the state attached to the class, to an enclosing group or to a
preceding peer. A colon in the name of a class is escaped there, since it
would otherwise end the name; the state is quoted as it is.
-/

set_option autoImplicit false

namespace StateSheet.Selector

/-- A class name with every colon escaped. -/
def escape (className : Text) : Text :=
  className.flatMap fun c => if c = ':' then ['\\', ':'] else [c]

/-- The condition that an element is in a state, or that it is not. -/
def condition (state : Text) (negated : Bool) : Text :=
  let holds := "[data-state=\"".toList ++ state ++ ['"', ']']
  if negated then ":not(".toList ++ holds ++ [')'] else holds

/-- The selector of a class under a variant. -/
def build (variant : Variant) (className : Text) : Text :=
  let classPart := '.' :: escape className
  let statePart := condition variant.state variant.negated
  match variant.relation with
  | .self => classPart ++ statePart
  | .group => ".group".toList ++ statePart ++ [' '] ++ classPart
  | .peer => ".peer".toList ++ statePart ++ " ~ ".toList ++ classPart

/-- The selector of a class under the variant that it names itself. -/
def ofClass? (className : Text) : Option Text :=
  (ClassName.variant? className).map fun variant => build variant className

end StateSheet.Selector
