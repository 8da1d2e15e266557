import StateSheet.Selector
import StateSheet.Proofs.Text.Nesting
import Mathlib.Logic.Function.Basic

/-!
# Escaped class names

Escaping is undone from the left: every colon of an escaped text follows the
backslash of its own escape, so a text is given by its escaped form
(`escape_injective`). Backslashes change no nesting, so an escaped text leaves
open what the text leaves open (`after_escape`) and hides its colons where the
text hides them (`hidesColons_escape`).
-/

set_option autoImplicit false

namespace StateSheet.Selector

@[simp] theorem escape_nil : escape [] = [] := rfl

theorem escape_cons (c : Char) (rest : Text) :
    escape (c :: rest) = (if c = ':' then ['\\', ':'] else [c]) ++ escape rest :=
  List.flatMap_cons

theorem escape_append (first second : Text) :
    escape (first ++ second) = escape first ++ escape second :=
  List.flatMap_append

theorem escape_of_not_mem {text : Text} (colonFree : ':' ∉ text) : escape text = text := by
  induction text with
  | nil => rfl
  | cons c rest ih =>
      obtain ⟨notColon, restFree⟩ := not_or.mp (List.mem_cons.not.mp colonFree)
      rw [escape_cons, if_neg (Ne.symm notColon), ih restFree, List.singleton_append]

theorem escape_ne_colon_cons (text rest : Text) : escape text ≠ ':' :: rest := by
  intro same
  cases text with
  | nil => cases same
  | cons c more =>
      rw [escape_cons] at same
      by_cases colon : c = ':'
      · rw [if_pos colon] at same
        cases same
      · rw [if_neg colon] at same
        exact colon (List.cons.inj same).1

/-- **A text is given by its escaped form.** -/
theorem escape_injective : Function.Injective escape := by
  intro first
  induction first with
  | nil =>
      intro second same
      cases second with
      | nil => rfl
      | cons d others =>
          rw [escape_nil, escape_cons] at same
          split at same <;> cases same
  | cons c more ih =>
      intro second same
      cases second with
      | nil =>
          rw [escape_nil, escape_cons] at same
          split at same <;> cases same
      | cons d others =>
          rw [escape_cons, escape_cons] at same
          by_cases colon : c = ':' <;> by_cases otherColon : d = ':'
          · rw [if_pos colon, if_pos otherColon] at same
            rw [colon, otherColon, ih (List.append_cancel_left same)]
          · -- The colon of an escape would have to start what follows a backslash.
            rw [if_pos colon, if_neg otherColon] at same
            exact absurd (List.cons.inj same).2.symm (escape_ne_colon_cons others _)
          · rw [if_neg colon, if_pos otherColon] at same
            exact absurd (List.cons.inj same).2 (escape_ne_colon_cons more _)
          · rw [if_neg colon, if_neg otherColon] at same
            obtain ⟨rfl, rest⟩ := List.cons.inj same
            rw [ih rest]

theorem after_escape (nesting : Nesting) (text : Text) :
    nesting.after (escape text) = nesting.after text := by
  induction text generalizing nesting with
  | nil => rfl
  | cons c rest ih =>
      rw [escape_cons, Nesting.after_append, ih, Nesting.after_cons]
      by_cases colon : c = ':'
      · rw [if_pos colon, colon]
        rfl
      · rw [if_neg colon]
        rfl

/-- Colons that are hidden stay hidden when they are escaped. -/
theorem hidesColons_escape {nesting : Nesting} {text : Text}
    (hidden : nesting.Hides (· = ':') text) : nesting.Hides (· = ':') (escape text) := by
  induction text generalizing nesting with
  | nil => exact hidden
  | cons c rest ih =>
      obtain ⟨firstHidden, restHidden⟩ := Nesting.hides_cons.mp hidden
      rw [escape_cons]
      by_cases colon : c = ':'
      · rw [if_pos colon]
        subst colon
        refine Nesting.hides_cons.mpr ⟨by simp, ?_⟩
        exact Nesting.hides_cons.mpr ⟨firstHidden, ih restHidden⟩
      · rw [if_neg colon]
        exact Nesting.hides_cons.mpr ⟨firstHidden, ih restHidden⟩

end StateSheet.Selector
