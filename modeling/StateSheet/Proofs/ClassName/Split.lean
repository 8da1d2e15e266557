import StateSheet.ClassName
import StateSheet.Proofs.Text.Nesting

/-!
# Where a class name is cut

A class name is cut at a colon exactly when the text before it hides its own
colons and closes as much as it opens (`splitWithin?_eq_some_iff`). So there is
at most one place to cut (`cut_unique`), and none exactly when all colons are
hidden (`splitWithin?_eq_none_iff`).
-/

set_option autoImplicit false

namespace StateSheet.ClassName

/-- **A text is cut at a colon at the top before which no other stands.** -/
theorem splitWithin?_eq_some_iff {nesting : Nesting} {text before after : Text} :
    splitWithin? nesting text = some (before, after) ↔
      text = before ++ ':' :: after ∧ nesting.Hides (· = ':') before ∧
        (nesting.after before).isTop = true := by
  induction text generalizing nesting before with
  | nil => simp [splitWithin?]
  | cons c rest ih =>
      by_cases here : c = ':' ∧ nesting.isTop = true
      · rw [splitWithin?, if_pos here]
        obtain ⟨rfl, atTop⟩ := here
        constructor
        · intro cut
          cases cut
          exact ⟨rfl, Nesting.hides_nil, atTop⟩
        · rintro ⟨parts, hidden, _⟩
          cases before with
          | nil =>
              cases parts
              rfl
          | cons d more =>
              obtain ⟨rfl, _⟩ := List.cons.inj parts
              exact absurd ⟨rfl, atTop⟩ (Nesting.hides_cons.mp hidden).1
      · rw [splitWithin?, if_neg here, Option.map_eq_some_iff]
        constructor
        · rintro ⟨⟨more, others⟩, cut, same⟩
          cases same
          obtain ⟨rfl, hidden, closed⟩ := ih.mp cut
          exact ⟨rfl, Nesting.hides_cons.mpr ⟨here, hidden⟩, closed⟩
        · rintro ⟨parts, hidden, closed⟩
          cases before with
          | nil =>
              obtain ⟨rfl, _⟩ := List.cons.inj parts
              exact absurd ⟨rfl, closed⟩ here
          | cons d more =>
              obtain ⟨rfl, tailParts⟩ := List.cons.inj parts
              exact ⟨(more, after),
                ih.mpr ⟨tailParts, (Nesting.hides_cons.mp hidden).2, closed⟩, rfl⟩

/-- **A text is cut nowhere exactly when all its colons are hidden.** -/
theorem splitWithin?_eq_none_iff {nesting : Nesting} {text : Text} :
    splitWithin? nesting text = none ↔ nesting.Hides (· = ':') text := by
  induction text generalizing nesting with
  | nil => simp [splitWithin?, Nesting.hides_nil]
  | cons c rest ih =>
      by_cases here : c = ':' ∧ nesting.isTop = true
      · simp [splitWithin?, here, Nesting.hides_cons]
      · rw [splitWithin?, if_neg here, Option.map_eq_none_iff, ih]
        constructor
        · exact fun hidden => Nesting.hides_cons.mpr ⟨here, hidden⟩
        · exact fun hidden => (Nesting.hides_cons.mp hidden).2

/-- A class name is cut behind a text that hides its colons and leaves nothing
open. -/
theorem split?_eq_some_iff {className token utility : Text} :
    split? className = some (token, utility) ↔
      className = token ++ ':' :: utility ∧ Nesting.Hides {} (· = ':') token ∧
        Nesting.after {} token = {} := by
  rw [split?, splitWithin?_eq_some_iff, Nesting.isTop_iff_eq]

/-- **There is one place to cut.** -/
theorem cut_unique {first second utility other : Text} (hidden : Nesting.Hides {} (· = ':') first)
    (closed : Nesting.after {} first = {}) (otherHidden : Nesting.Hides {} (· = ':') second)
    (otherClosed : Nesting.after {} second = {})
    (same : first ++ ':' :: utility = second ++ ':' :: other) :
    first = second ∧ utility = other := by
  have cut : split? (first ++ ':' :: utility) = some (first, utility) :=
    split?_eq_some_iff.mpr ⟨rfl, hidden, closed⟩
  have otherCut : split? (second ++ ':' :: other) = some (second, other) :=
    split?_eq_some_iff.mpr ⟨rfl, otherHidden, otherClosed⟩
  rw [same, otherCut] at cut
  cases cut
  exact ⟨rfl, rfl⟩

end StateSheet.ClassName
