import StateSheet.Utilities

/-!
# Settings

What a user can set for the generation of a stylesheet: whether it is
minified, whether variant names without a state are warned of, and which
utilities there are beside the standard ones.
-/

set_option autoImplicit false

namespace StateSheet

/-- The settings of a generation. -/
structure Settings where
  minify : Bool := false
  warnOnEmptyState : Bool := true
  utilities : Utilities := .empty

end StateSheet
