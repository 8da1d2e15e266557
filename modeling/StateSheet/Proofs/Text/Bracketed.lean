import StateSheet.Proofs.Text.Nesting

/-!
# Texts with closed brackets

A text is bracketed when its brackets and parentheses close one inside another,
each opening with a character that may close it (`Bracketed`). Which pairs are
allowed is a parameter: those of one kind (`likePairs`), or any opening with any
closing character (`anyPairs`), for a reader that does not tell the kinds apart.

Pairs of one kind leave every nesting as it was (`Bracketed.after`). A text
bracketed by any pairs is bracketed by those of one kind exactly when none of its
brackets is closed by a parenthesis, and no parenthesis by a bracket
(`bracketed_likePairs_iff`). Whether that is so can be read off with a stack of
the openings (`ClosesInKind.of_closesInKindFrom`).
-/

set_option autoImplicit false

namespace StateSheet

/-- The openings with the closing character of their own kind. -/
def likePairs : List (Char × Char) := [('[', ']'), ('(', ')')]

/-- The openings with every closing character. -/
def anyPairs : List (Char × Char) := [('[', ']'), ('(', ')'), ('[', ')'), ('(', ']')]

/-- A text whose brackets and parentheses close in the given pairs, one inside
another, with none left open. -/
inductive Bracketed (pairs : List (Char × Char)) : Text → Prop where
  | nil : Bracketed pairs []
  | plain {c : Char} {rest : Text} (unbracketed : Nesting.isBracket c = false) :
      Bracketed pairs rest → Bracketed pairs (c :: rest)
  | pair {opening closing : Char} {inner rest : Text} (paired : (opening, closing) ∈ pairs) :
      Bracketed pairs inner → Bracketed pairs rest →
      Bracketed pairs (opening :: (inner ++ closing :: rest))

theorem mem_anyPairs_iff {opening closing : Char} :
    (opening, closing) ∈ anyPairs ↔
      (opening = '[' ∨ opening = '(') ∧ (closing = ']' ∨ closing = ')') := by
  simp only [anyPairs, List.mem_cons, Prod.mk.injEq, List.not_mem_nil, or_false]
  constructor
  · rintro (⟨rfl, rfl⟩ | ⟨rfl, rfl⟩ | ⟨rfl, rfl⟩ | ⟨rfl, rfl⟩) <;> decide
  · rintro ⟨rfl | rfl, rfl | rfl⟩ <;> decide

theorem likePairs_subset_anyPairs : likePairs ⊆ anyPairs := by decide

theorem not_opening_of_closing {c : Char} (closes : c = ']' ∨ c = ')') :
    ¬ (c = '[' ∨ c = '(') := by
  rcases closes with rfl | rfl <;> decide

/-- A character opens, closes or is no bracket. -/
theorem bracket_cases (c : Char) :
    (c = '[' ∨ c = '(') ∨ (c = ']' ∨ c = ')') ∨ Nesting.isBracket c = false := by
  by_cases opens : c = '[' ∨ c = '('
  · exact .inl opens
  · by_cases closes : c = ']' ∨ c = ')'
    · exact .inr (.inl closes)
    · exact .inr (.inr (Nesting.isBracket_eq_false_iff.mpr ⟨opens, closes⟩))

namespace Bracketed

variable {pairs : List (Char × Char)} {text first second : Text}

theorem append (front : Bracketed pairs first) (back : Bracketed pairs second) :
    Bracketed pairs (first ++ second) := by
  induction front with
  | nil => exact back
  | plain unbracketed _ ih => exact .plain unbracketed ih
  | pair paired bracketed _ _ ih =>
      rw [List.cons_append, List.append_assoc, List.cons_append]
      exact .pair paired bracketed ih

theorem mono {others : List (Char × Char)} (allowed : pairs ⊆ others)
    (bracketed : Bracketed pairs text) : Bracketed others text := by
  induction bracketed with
  | nil => exact .nil
  | plain unbracketed _ ih => exact .plain unbracketed ih
  | pair paired _ _ innerIh restIh => exact .pair (allowed paired) innerIh restIh

/-- **Pairs of one kind leave a nesting as it was.** -/
theorem after (bracketed : Bracketed likePairs text) (nesting : Nesting) :
    nesting.after text = nesting := by
  induction bracketed generalizing nesting with
  | nil => rfl
  | plain unbracketed _ ih => rw [Nesting.after_cons, Nesting.step_of_not_isBracket unbracketed, ih]
  | pair paired _ _ innerIh restIh =>
      rw [Nesting.after_cons, Nesting.after_append, innerIh, Nesting.after_cons, restIh]
      simp only [likePairs, List.mem_cons, Prod.mk.injEq, List.not_mem_nil, or_false] at paired
      rcases paired with ⟨rfl, rfl⟩ | ⟨rfl, rfl⟩ <;> rfl

end Bracketed

/-! ## Closing in kind -/

/-- Whatever pair encloses a bracketed part of a text is of one kind. -/
def ClosesInKind (text : Text) : Prop :=
  ∀ before opening inner closing after, text = before ++ opening :: (inner ++ closing :: after) →
    Bracketed anyPairs inner → (opening, closing) ∈ anyPairs → (opening, closing) ∈ likePairs

/-- Does every closing character of a text close an opening of its own kind, when
the given ones are open in front of it, the last one first? -/
def closesInKindFrom : Text → Text → Bool
  | _, [] => true
  | opened, c :: rest =>
      if c = '[' ∨ c = '(' then closesInKindFrom (c :: opened) rest
      else if c = ']' ∨ c = ')' then
        opened.head?.any (fun last => likePairs.contains (last, c)) &&
          closesInKindFrom opened.tail rest
      else closesInKindFrom opened rest

theorem closesInKindFrom_opening {opening : Char} (opens : opening = '[' ∨ opening = '(')
    (opened rest : Text) :
    closesInKindFrom opened (opening :: rest) = closesInKindFrom (opening :: opened) rest := by
  rw [closesInKindFrom, if_pos opens]

theorem closesInKindFrom_closing {closing : Char} (closes : closing = ']' ∨ closing = ')')
    (last : Char) (opened rest : Text) :
    closesInKindFrom (last :: opened) (closing :: rest) =
      (likePairs.contains (last, closing) && closesInKindFrom opened rest) := by
  rw [closesInKindFrom, if_neg (not_opening_of_closing closes), if_pos closes]
  rfl

theorem closesInKindFrom_plain {c : Char} (unbracketed : Nesting.isBracket c = false)
    (opened rest : Text) :
    closesInKindFrom opened (c :: rest) = closesInKindFrom opened rest := by
  obtain ⟨notOpening, notClosing⟩ := Nesting.isBracket_eq_false_iff.mp unbracketed
  rw [closesInKindFrom, if_neg notOpening, if_neg notClosing]

/-- A text bracketed by kind closes in kind and leaves the openings as they were. -/
theorem Bracketed.closesInKindFrom_append {text : Text} (bracketed : Bracketed likePairs text)
    (opened rest : Text) :
    closesInKindFrom opened (text ++ rest) = closesInKindFrom opened rest := by
  induction bracketed generalizing opened rest with
  | nil => rfl
  | plain unbracketed _ ih => rw [List.cons_append, closesInKindFrom_plain unbracketed, ih]
  | pair paired _ _ innerIh restIh =>
      obtain ⟨opens, closes⟩ := mem_anyPairs_iff.mp (likePairs_subset_anyPairs paired)
      rw [List.cons_append, closesInKindFrom_opening opens, List.append_assoc, innerIh,
        List.cons_append, closesInKindFrom_closing closes, restIh, List.contains_iff_mem.mpr paired,
        Bool.true_and]

/-- Where a text closes in kind, what is bracketed in it by any pairs is bracketed
by kind, and the rest closes in kind as well. -/
theorem Bracketed.likePairs_of_closesInKindFrom {text : Text} (bracketed : Bracketed anyPairs text)
    {opened rest : Text} (inKind : closesInKindFrom opened (text ++ rest) = true) :
    Bracketed likePairs text ∧ closesInKindFrom opened rest = true := by
  induction bracketed generalizing opened rest with
  | nil => exact ⟨.nil, inKind⟩
  | plain unbracketed _ ih =>
      rw [List.cons_append, closesInKindFrom_plain unbracketed] at inKind
      obtain ⟨like, onwards⟩ := ih inKind
      exact ⟨.plain unbracketed like, onwards⟩
  | pair paired _ _ innerIh restIh =>
      obtain ⟨opens, closes⟩ := mem_anyPairs_iff.mp paired
      rw [List.cons_append, closesInKindFrom_opening opens, List.append_assoc] at inKind
      obtain ⟨innerLike, closed⟩ := innerIh inKind
      rw [List.cons_append, closesInKindFrom_closing closes, Bool.and_eq_true] at closed
      obtain ⟨restLike, onwards⟩ := restIh closed.2
      exact ⟨.pair (List.contains_iff_mem.mp closed.1) innerLike restLike, onwards⟩

theorem exists_closesInKindFrom {opened before rest : Text}
    (inKind : closesInKindFrom opened (before ++ rest) = true) :
    ∃ others, closesInKindFrom others rest = true := by
  induction before generalizing opened with
  | nil => exact ⟨opened, inKind⟩
  | cons c more ih =>
      rw [List.cons_append] at inKind
      rcases bracket_cases c with opens | closes | unbracketed
      · rw [closesInKindFrom_opening opens] at inKind
        exact ih inKind
      · cases opened with
        | nil => rcases closes with rfl | rfl <;> cases inKind
        | cons last others =>
            rw [closesInKindFrom_closing closes, Bool.and_eq_true] at inKind
            exact ih inKind.2
      · rw [closesInKindFrom_plain unbracketed] at inKind
        exact ih inKind

/-- **Reading with a stack of openings shows whether a text closes in kind.** -/
theorem ClosesInKind.of_closesInKindFrom {text : Text}
    (inKind : closesInKindFrom [] text = true) : ClosesInKind text := by
  rintro before opening inner closing after rfl bracketed paired
  obtain ⟨opens, closes⟩ := mem_anyPairs_iff.mp paired
  obtain ⟨opened, reached⟩ := exists_closesInKindFrom inKind
  rw [closesInKindFrom_opening opens] at reached
  have closed := (bracketed.likePairs_of_closesInKindFrom reached).2
  rw [closesInKindFrom_closing closes, Bool.and_eq_true] at closed
  exact List.contains_iff_mem.mp closed.1

theorem ClosesInKind.of_infix {text part : Text} (inKind : ClosesInKind text)
    (within : part <:+: text) : ClosesInKind part := by
  obtain ⟨front, behind, rfl⟩ := within
  rintro before opening inner closing after rfl bracketed paired
  exact inKind (front ++ before) opening inner closing (after ++ behind) (by simp) bracketed paired

theorem Bracketed.of_closesInKind {text : Text} (bracketed : Bracketed anyPairs text)
    (inKind : ClosesInKind text) : Bracketed likePairs text := by
  induction bracketed with
  | nil => exact .nil
  | @plain c rest unbracketed _ ih =>
      exact .plain unbracketed (ih (inKind.of_infix (List.suffix_cons c rest).isInfix))
  | @pair opening closing inner rest paired enclosed _ innerIh restIh =>
      have like : (opening, closing) ∈ likePairs := inKind [] _ _ _ rest rfl enclosed paired
      have inside : inner <:+: opening :: (inner ++ closing :: rest) :=
        ⟨[opening], closing :: rest, by simp⟩
      have behind : rest <:+: opening :: (inner ++ closing :: rest) :=
        ⟨opening :: (inner ++ [closing]), [], by simp⟩
      exact .pair like (innerIh (inKind.of_infix inside)) (restIh (inKind.of_infix behind))

/-- **To be bracketed by kind is to be bracketed and to close in kind.** -/
theorem bracketed_likePairs_iff {text : Text} :
    Bracketed likePairs text ↔ Bracketed anyPairs text ∧ ClosesInKind text := by
  constructor
  · intro like
    have inKind : closesInKindFrom [] text = true := by
      rw [← text.append_nil, like.closesInKindFrom_append]
      rfl
    exact ⟨like.mono likePairs_subset_anyPairs, .of_closesInKindFrom inKind⟩
  · rintro ⟨bracketed, inKind⟩
    exact bracketed.of_closesInKind inKind

end StateSheet
