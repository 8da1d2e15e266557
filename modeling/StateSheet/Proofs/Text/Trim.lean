import StateSheet.Text.Blank
import Mathlib.Data.List.DropRight

/-!
# Trimmed texts

A text is trimmed when no blank stands at either of its ends (`IsTrimmed`). Trimming makes
such a text (`isTrimmed_trim`) out of characters of the one that it is given
(`mem_of_mem_trim`). It takes away the blanks around a trimmed text and nothing else
(`trim_between_blanks`).
-/

set_option autoImplicit false

namespace StateSheet.Text

/-- A text without a blank at either end. -/
structure IsTrimmed (text : Text) : Prop where
  start : ∀ c ∈ text.head?, isBlank c = false
  finish : ∀ c ∈ text.getLast?, isBlank c = false

theorem trimEnd_eq_rdropWhile (text : Text) : text.trimEnd = text.rdropWhile isBlank := rfl

/-- A character of a trimmed text is a character of the text. -/
theorem mem_of_mem_trim {text : Text} {c : Char} (member : c ∈ text.trim) : c ∈ text := by
  rw [trim, trimEnd_eq_rdropWhile] at member
  have kept : c ∈ text.trimStart := (List.rdropWhile_prefix isBlank _).subset member
  exact (List.dropWhile_suffix isBlank).subset kept

theorem isBlank_head?_trimStart (text : Text) : ∀ c ∈ text.trimStart.head?, isBlank c = false := by
  intro c first
  have visible := List.head?_dropWhile_not isBlank text
  rwa [← trimStart, first] at visible

/-- **Trimming leaves no blank at the ends.** -/
theorem isTrimmed_trim (text : Text) : text.trim.IsTrimmed where
  start c first := by
    obtain ⟨rest, shape⟩ := List.head?_eq_some_iff.mp first
    obtain ⟨behind, whole⟩ : text.trim <+: text.trimStart := List.rdropWhile_prefix isBlank _
    refine isBlank_head?_trimStart text c ?_
    rw [← whole, shape]
    rfl
  finish c last := by
    rw [trim, trimEnd, List.getLast?_reverse] at last
    have visible := List.head?_dropWhile_not isBlank text.trimStart.reverse
    rwa [last] at visible

theorem trimStart_append {blanks : Text} (blank : ∀ c ∈ blanks, isBlank c = true) {text : Text}
    (visible : ∀ c ∈ text.head?, isBlank c = false) : trimStart (blanks ++ text) = text := by
  rw [trimStart, List.dropWhile_append_of_pos blank]
  cases text with
  | nil => rfl
  | cons c rest => rw [List.dropWhile_cons_of_neg (by simp [visible c rfl])]

theorem trimEnd_append {blanks : Text} (blank : ∀ c ∈ blanks, isBlank c = true) {text : Text}
    (visible : ∀ c ∈ text.getLast?, isBlank c = false) : trimEnd (text ++ blanks) = text := by
  have reversed : trimStart (blanks.reverse ++ text.reverse) = text.reverse := by
    refine trimStart_append (fun c member => blank c (List.mem_reverse.mp member)) fun c first => ?_
    rw [List.head?_reverse] at first
    exact visible c first
  rw [trimEnd, List.reverse_append]
  exact (congrArg List.reverse reversed).trans text.reverse_reverse

/-- **Trimming takes away the blanks around a trimmed text** and nothing else. -/
theorem trim_between_blanks {left right : Text} (leftBlank : ∀ c ∈ left, isBlank c = true)
    (rightBlank : ∀ c ∈ right, isBlank c = true) {text : Text} (trimmed : text.IsTrimmed)
    (present : text ≠ []) : trim (left ++ (text ++ right)) = text := by
  have start : ∀ c ∈ (text ++ right).head?, isBlank c = false := by
    rw [List.head?_append_of_ne_nil text present]
    exact trimmed.start
  rw [trim, trimStart_append leftBlank start, trimEnd_append rightBlank trimmed.finish]

end StateSheet.Text
