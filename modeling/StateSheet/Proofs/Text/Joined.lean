import StateSheet.Text.Basic

/-!
# Joined texts

Joining the texts of two lists one behind the other is joining both with a separator between
(`intercalate_append`), and a lead that ends every separator is a lead of every text
(`append_intercalate`). Each of the texts stands in what they are joined to
(`infix_intercalate_of_mem`).
-/

set_option autoImplicit false

namespace StateSheet.Text

variable {separator : Text}

theorem intercalate_append {first second : List Text} (firstGiven : first ≠ [])
    (secondGiven : second ≠ []) :
    separator.intercalate (first ++ second) =
      separator.intercalate first ++ separator ++ separator.intercalate second := by
  induction first with
  | nil => exact absurd rfl firstGiven
  | cons text rest ih =>
      rw [List.cons_append, List.intercalate_cons_of_ne_nil
        (List.append_ne_nil_of_right_ne_nil rest secondGiven)]
      cases rest with
      | nil => rw [List.intercalate_singleton, List.nil_append]
      | cons next others =>
          rw [ih (List.cons_ne_nil _ _), List.intercalate_cons_cons]
          simp only [List.append_assoc]

theorem append_intercalate {lead : Text} {texts : List Text} (present : texts ≠ []) :
    lead ++ (separator ++ lead).intercalate texts =
      separator.intercalate (texts.map (lead ++ ·)) := by
  induction texts with
  | nil => exact absurd rfl present
  | cons first rest ih =>
      cases rest with
      | nil => rw [List.intercalate_singleton, List.map_singleton, List.intercalate_singleton]
      | cons second others =>
          rw [List.intercalate_cons_cons, List.map_cons, List.map_cons,
            List.intercalate_cons_cons, ← List.map_cons, ← ih (List.cons_ne_nil _ _)]
          simp only [List.append_assoc]

theorem infix_intercalate_of_mem {text : Text} {texts : List Text} (member : text ∈ texts) :
    text <:+: separator.intercalate texts := by
  induction texts with
  | nil => cases member
  | cons first rest ih =>
      cases rest with
      | nil =>
          have whole : separator.intercalate [first] = text := by
            rw [List.intercalate_singleton, List.mem_singleton.mp member]
          exact ⟨[], [], (List.append_nil text).trans whole.symm⟩
      | cons second others =>
          rw [List.intercalate_cons_cons]
          rcases List.mem_cons.mp member with rfl | later
          · rw [List.append_assoc]
            exact (List.prefix_append _ _).isInfix
          · exact (ih later).trans (List.suffix_append _ _).isInfix

end StateSheet.Text
