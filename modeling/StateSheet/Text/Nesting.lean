import StateSheet.Text.Basic

/-!
# Nesting in brackets and parentheses

How deep a position of a text stands in brackets and in parentheses. The two
kinds are counted apart, and a closing character with nothing to close leaves
its count at zero. A position is at the top when both counts are zero there.

Class lists are cut at the blanks at the top, and class names at the first
colon at the top.
-/

set_option autoImplicit false

namespace StateSheet

/-- The open brackets and the open parentheses at a position of a text. -/
structure Nesting where
  brackets : Nat := 0
  parentheses : Nat := 0
deriving DecidableEq, Repr

namespace Nesting

/-- Nothing is open. -/
def isTop (nesting : Nesting) : Bool := nesting.brackets == 0 && nesting.parentheses == 0

/-- The nesting after one more character. -/
def step (nesting : Nesting) (c : Char) : Nesting :=
  if c = '[' then { nesting with brackets := nesting.brackets + 1 }
  else if c = ']' then { nesting with brackets := nesting.brackets - 1 }
  else if c = '(' then { nesting with parentheses := nesting.parentheses + 1 }
  else if c = ')' then { nesting with parentheses := nesting.parentheses - 1 }
  else nesting

/-- The nesting after a text. -/
def after (nesting : Nesting) (text : Text) : Nesting := text.foldl step nesting

@[simp] theorem after_nil (nesting : Nesting) : nesting.after [] = nesting := rfl

@[simp] theorem after_cons (nesting : Nesting) (c : Char) (text : Text) :
    nesting.after (c :: text) = (nesting.step c).after text := rfl

/-- The nesting after two texts is reached through the nesting after the
first. -/
theorem after_append (nesting : Nesting) (first second : Text) :
    nesting.after (first ++ second) = (nesting.after first).after second :=
  List.foldl_append

/-- Nothing is open exactly when both counts are zero. -/
theorem isTop_iff {nesting : Nesting} :
    nesting.isTop = true ↔ nesting.brackets = 0 ∧ nesting.parentheses = 0 := by
  simp [isTop]

end Nesting

end StateSheet
