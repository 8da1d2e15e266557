import StateSheet.Settings.Basic
import StateSheet.Stylesheet.Layout

/-!
# Generation

The stylesheet of a class list under given settings, as text, with the counts
and the warnings that go with it.
-/

set_option autoImplicit false

namespace StateSheet

/-- The outcome of generating a stylesheet. -/
structure Generation where
  css : Text
  /-- How many classes have a rule. -/
  ruleCount : Nat
  /-- How many classes asked for a rule and could not have one. -/
  skipped : Nat
  notices : List Notice
deriving DecidableEq, Repr

/-- Generates the stylesheet of a class list. -/
def Generation.ofClasses (settings : Settings) (classes : List Text) : Generation :=
  let sheet := Stylesheet.ofClasses settings.utilities.extended classes
  { css := sheet.render (.ofMinify settings.minify)
    ruleCount := sheet.ruleCount
    skipped := sheet.skipped
    notices := (Registration.ofClasses classes).warnings settings.warnOnEmptyState }

end StateSheet
