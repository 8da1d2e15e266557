import StateSheet.Text.Blank
import StateSheet.Proofs.Text.Joined

/-!
# Words of texts

The words of a text are the pieces between its blanks, without the empty ones
(`words_eq_splitOnP`). So the words on both sides of a blank are words of the whole
(`words_append_blank`), and a text of words with spaces between has just these words
(`words_intercalate`).

A collapsed text therefore tells the words of a text and nothing else
(`collapsed_eq_iff`). Collapsing goes along with putting texts together: across a blank, the
parts are collapsed on their own (`collapsed_append_blank`), and a mark that stands right
behind a word stays with it (`collapsed_concat`). So texts that are joined by a mark and a blank
are collapsed one by one (`collapsed_intercalate`).
-/

set_option autoImplicit false

namespace StateSheet.Text

/-! ## Words -/

theorem wordsAfter_eq_splitOnP {begun : Text} (visible : ∀ c ∈ begun, isBlank c = false)
    (text : Text) :
    wordsAfter begun text = ((begun.reverse ++ text).splitOnP isBlank).filter (· ≠ []) := by
  induction text generalizing begun with
  | nil =>
      rw [List.append_nil, List.splitOnP_eq_singleton (by simpa using visible), wordsAfter]
      split
      · next bare => simp [bare]
      · next given => simp [given]
  | cons c rest ih =>
      cases blank : isBlank c with
      | true =>
          rw [List.splitOnP_append_cons _ _ blank, List.filter_append,
            List.splitOnP_eq_singleton (by simpa using visible), wordsAfter, if_pos blank,
            ih (List.forall_mem_nil _)]
          split
          · next bare => simp [bare]
          · next given => simp [given]
      | false =>
          have visibleToo : ∀ other ∈ c :: begun, isBlank other = false :=
            List.forall_mem_cons.mpr ⟨blank, visible⟩
          rw [wordsAfter, if_neg (by simp [blank]), ih visibleToo, List.reverse_cons,
            List.append_assoc, List.singleton_append]

/-- **The words of a text are the pieces between its blanks** that are not empty. -/
theorem words_eq_splitOnP (text : Text) :
    text.words = (text.splitOnP isBlank).filter (· ≠ []) :=
  wordsAfter_eq_splitOnP (List.forall_mem_nil _) text

/-- The words on both sides of a blank are the words of the whole. -/
theorem words_append_blank {b : Char} (blank : isBlank b = true) (first second : Text) :
    words (first ++ b :: second) = first.words ++ second.words := by
  simp only [words_eq_splitOnP, List.splitOnP_append_cons _ _ blank, List.filter_append]

theorem words_blank_cons {b : Char} (blank : isBlank b = true) (text : Text) :
    words (b :: text) = text.words :=
  words_append_blank blank [] text

theorem words_of_visible {text : Text} (present : text ≠ [])
    (visible : ∀ c ∈ text, isBlank c = false) : text.words = [text] := by
  rw [words_eq_splitOnP, List.splitOnP_eq_singleton visible]
  simp [present]

theorem forall_mem_wordsAfter {begun : Text} (visible : ∀ c ∈ begun, isBlank c = false)
    (text : Text) : ∀ word ∈ wordsAfter begun text, word ≠ [] ∧ ∀ c ∈ word, isBlank c = false := by
  induction text generalizing begun with
  | nil =>
      intro word member
      rw [wordsAfter] at member
      split at member
      · cases member
      · next given =>
          rw [List.mem_singleton.mp member]
          exact ⟨by simpa using given, by simpa using visible⟩
  | cons c rest ih =>
      intro word member
      rw [wordsAfter] at member
      split at member
      · split at member
        · exact ih (List.forall_mem_nil _) word member
        · next given =>
            rcases List.mem_cons.mp member with rfl | later
            · exact ⟨by simpa using given, by simpa using visible⟩
            · exact ih (List.forall_mem_nil _) word later
      · next notBlank =>
          exact ih (List.forall_mem_cons.mpr ⟨Bool.not_eq_true _ ▸ notBlank, visible⟩) word member

/-- A word is not empty and holds no blank. -/
theorem forall_mem_words (text : Text) :
    ∀ word ∈ text.words, word ≠ [] ∧ ∀ c ∈ word, isBlank c = false :=
  forall_mem_wordsAfter (List.forall_mem_nil _) text

theorem wordsAfter_ne_nil {begun text : Text}
    (visible : begun ≠ [] ∨ ∃ c ∈ text, isBlank c = false) : wordsAfter begun text ≠ [] := by
  induction text generalizing begun with
  | nil => simpa [wordsAfter] using visible
  | cons c rest ih =>
      rw [wordsAfter]
      split
      · next blank =>
          split
          · next bare =>
              obtain ⟨d, member, shown⟩ := visible.resolve_left (not_not_intro bare)
              rcases List.mem_cons.mp member with rfl | later
              · rw [blank] at shown
                cases shown
              · exact ih (.inr ⟨d, later, shown⟩)
          · exact List.cons_ne_nil _ _
      · exact ih (.inl (List.cons_ne_nil c begun))

/-- A text with a visible character has a word. -/
theorem words_ne_nil {text : Text} (visible : ∃ c ∈ text, isBlank c = false) : text.words ≠ [] :=
  wordsAfter_ne_nil (.inr visible)

/-- A visible character stays in the last word of a text that ends in a visible one. -/
theorem wordsAfter_concat {last mark : Char} (lastVisible : isBlank last = false)
    (markVisible : isBlank mark = false) (begun front : Text) :
    ∃ earlier word, wordsAfter begun (front ++ [last]) = earlier ++ [word] ∧
      wordsAfter begun (front ++ [last, mark]) = earlier ++ [word ++ [mark]] := by
  -- A blank within the front ends a word, and what is begun behind it is another one.
  induction front generalizing begun with
  | nil =>
      exact ⟨[], (last :: begun).reverse, by simp [wordsAfter, lastVisible],
        by simp [wordsAfter, lastVisible, markVisible]⟩
  | cons c rest ih =>
      rw [List.cons_append, List.cons_append, wordsAfter, wordsAfter]
      cases isBlank c with
      | false => exact ih (c :: begun)
      | true =>
          obtain ⟨earlier, word, before, after⟩ := ih []
          by_cases bare : begun = []
          · exact ⟨earlier, word, by simp [bare, before], by simp [bare, after]⟩
          · exact ⟨begun.reverse :: earlier, word, by simp [bare, before],
              by simp [bare, after]⟩

/-- **Words with spaces between are read back.** -/
theorem words_intercalate {list : List Text}
    (proper : ∀ word ∈ list, word ≠ [] ∧ ∀ c ∈ word, isBlank c = false) :
    words ([' '].intercalate list) = list := by
  induction list with
  | nil => rfl
  | cons first rest ih =>
      obtain ⟨⟨present, visible⟩, restProper⟩ := List.forall_mem_cons.mp proper
      cases rest with
      | nil => rw [List.intercalate_singleton, words_of_visible present visible]
      | cons second others =>
          rw [List.intercalate_cons_cons, List.append_assoc, List.singleton_append,
            words_append_blank rfl, words_of_visible present visible, ih restProper,
            List.singleton_append]

/-! ## Collapsed texts -/

/-- Collapsing keeps the words. -/
@[simp] theorem words_collapsed (text : Text) : text.collapsed.words = text.words :=
  words_intercalate (forall_mem_words text)

theorem collapsed_collapsed (text : Text) : text.collapsed.collapsed = text.collapsed := by
  rw [collapsed, words_collapsed, collapsed]

/-- **A collapsed text tells the words of a text** and nothing else. -/
theorem collapsed_eq_iff {first second : Text} :
    first.collapsed = second.collapsed ↔ first.words = second.words := by
  constructor
  · intro same
    rw [← words_collapsed first, same, words_collapsed]
  · intro same
    rw [collapsed, same, collapsed]

theorem collapsed_of_visible {text : Text} (present : text ≠ [])
    (visible : ∀ c ∈ text, isBlank c = false) : text.collapsed = text := by
  rw [collapsed, words_of_visible present visible, List.intercalate_singleton]

/-- **Texts with a blank between are collapsed on their own.** -/
theorem collapsed_append_blank {b : Char} (blank : isBlank b = true) {first second : Text}
    (firstVisible : ∃ c ∈ first, isBlank c = false)
    (secondVisible : ∃ c ∈ second, isBlank c = false) :
    collapsed (first ++ b :: second) = first.collapsed ++ ' ' :: second.collapsed := by
  rw [collapsed, words_append_blank blank,
    intercalate_append (words_ne_nil firstVisible) (words_ne_nil secondVisible), List.append_assoc]
  rfl

theorem collapsed_blank_cons {b : Char} (blank : isBlank b = true) (text : Text) :
    collapsed (b :: text) = text.collapsed := by
  rw [collapsed, words_blank_cons blank, collapsed]

/-- **A mark behind a word stays with it.** -/
theorem collapsed_concat {text : Text} (present : text ≠ [])
    (finish : ∀ c ∈ text.getLast?, isBlank c = false) {mark : Char}
    (markVisible : isBlank mark = false) :
    collapsed (text ++ [mark]) = text.collapsed ++ [mark] := by
  obtain ⟨front, last, rfl⟩ : ∃ front last, text = front ++ [last] :=
    ⟨_, _, (List.dropLast_concat_getLast present).symm⟩
  have lastVisible : isBlank last = false := finish last (by simp)
  obtain ⟨earlier, word, before, after⟩ := wordsAfter_concat lastVisible markVisible [] front
  rw [collapsed, words, List.append_assoc, List.singleton_append, after, collapsed, words, before]
  cases earlier with
  | nil => simp
  | cons first more =>
      have given : first :: more ≠ [] := List.cons_ne_nil _ _
      rw [intercalate_append given (List.cons_ne_nil _ _),
        intercalate_append given (List.cons_ne_nil _ _)]
      simp

/-- **Joined texts are collapsed one by one**, when a blank stands between them and a glue that
stays with the text in front of it. -/
theorem collapsed_intercalate {glue : Text} {b : Char} (blank : isBlank b = true)
    {texts : List Text} (visible : ∀ text ∈ texts, ∃ c ∈ text, isBlank c = false)
    (glued : ∀ text ∈ texts, collapsed (text ++ glue) = text.collapsed ++ glue) :
    collapsed ((glue ++ [b]).intercalate texts) =
      (glue ++ [' ']).intercalate (texts.map collapsed) := by
  induction texts with
  | nil => rfl
  | cons first rest ih =>
      obtain ⟨⟨c, inFirst, firstVisible⟩, restVisible⟩ := List.forall_mem_cons.mp visible
      obtain ⟨firstGlued, restGlued⟩ := List.forall_mem_cons.mp glued
      cases rest with
      | nil => rw [List.intercalate_singleton, List.map_singleton, List.intercalate_singleton]
      | cons second others =>
          have firstPart : ∃ c ∈ first ++ glue, isBlank c = false :=
            ⟨c, List.mem_append_left _ inFirst, firstVisible⟩
          have restPart : ∃ c ∈ (glue ++ [b]).intercalate (second :: others),
              isBlank c = false := by
            obtain ⟨d, inSecond, secondVisible⟩ := restVisible second List.mem_cons_self
            exact ⟨d, (infix_intercalate_of_mem List.mem_cons_self).subset inSecond, secondVisible⟩
          rw [List.intercalate_cons_cons, List.append_assoc, List.append_assoc,
            List.singleton_append, ← List.append_assoc,
            collapsed_append_blank blank firstPart restPart, firstGlued, ih restVisible restGlued]
          simp only [List.map_cons, List.intercalate_cons_cons, List.append_assoc,
            List.singleton_append]

end StateSheet.Text
