import StateSheet.Proofs.Candidate.ClassList
import StateSheet.Proofs.Candidate.Attribute
import StateSheet.Proofs.Text.Bracketed

/-!
# The brackets of a candidate

The check of a candidate counts its openings and its closings in one depth. A
text that ends at depth zero is bracketed by pairs of any kind
(`bracketed_of_isBalancedFrom`), and the check reads on from the same depth
behind any bracketed beginning (`isBalancedFrom_of_append`), so no markup stands
outside the brackets.

Class lists are cut by two counts, one for each kind. So an extracted class has
no blank behind a beginning that is bracketed by kind
(`extracted_classes_are_bracketed`), but a bracket that the check takes for closed
by a parenthesis is still open for the cut, and hides the blanks that follow it
(`unlike_pair_hides_blank`).
-/

set_option autoImplicit false

namespace StateSheet.Candidate

/-! ## One step of the check -/

theorem isBalancedFrom_opening {opening : Char} (opens : opening = '[' ∨ opening = '(')
    (depth : Nat) (rest : Text) :
    isBalancedFrom depth (opening :: rest) = isBalancedFrom (depth + 1) rest := by
  rw [isBalancedFrom, if_pos opens]

theorem isBalancedFrom_closing {closing : Char} (closes : closing = ']' ∨ closing = ')')
    (depth : Nat) (rest : Text) :
    isBalancedFrom depth (closing :: rest) = (depth != 0 && isBalancedFrom (depth - 1) rest) := by
  rw [isBalancedFrom, if_neg (not_opening_of_closing closes), if_pos closes]

theorem isBalancedFrom_plain {c : Char} (unbracketed : Nesting.isBracket c = false)
    (depth : Nat) (rest : Text) :
    isBalancedFrom depth (c :: rest) =
      (!(isMarkup c && depth == 0) && isBalancedFrom depth rest) := by
  obtain ⟨notOpening, notClosing⟩ := Nesting.isBracket_eq_false_iff.mp unbracketed
  rw [isBalancedFrom, if_neg notOpening, if_neg notClosing]
  cases isMarkup c && depth == 0 <;> rfl

/-! ## What is balanced is bracketed -/

/-- A text that closes as many openings in front of it as the depth says, and is
bracketed between these closings. -/
inductive Unwinds : Nat → Text → Prop where
  | done {text : Text} : Bracketed anyPairs text → Unwinds 0 text
  | close {depth : Nat} {inner rest : Text} {closing : Char}
      (closes : closing = ']' ∨ closing = ')') :
      Bracketed anyPairs inner → Unwinds depth rest →
      Unwinds (depth + 1) (inner ++ closing :: rest)

theorem Unwinds.behind {depth : Nat} {front text : Text} (bracketed : Bracketed anyPairs front)
    (unwinds : Unwinds depth text) : Unwinds depth (front ++ text) := by
  cases unwinds with
  | done rest => exact .done (bracketed.append rest)
  | close closes inner rest =>
      rw [← List.append_assoc]
      exact .close closes (bracketed.append inner) rest

theorem unwinds_of_isBalancedFrom {depth : Nat} {text : Text}
    (balanced : isBalancedFrom depth text = true) : Unwinds depth text := by
  induction text generalizing depth with
  | nil =>
      have closed : depth = 0 := by simpa [isBalancedFrom] using balanced
      rw [closed]
      exact .done .nil
  | cons c rest ih =>
      rcases bracket_cases c with opens | closes | unbracketed
      · rw [isBalancedFrom_opening opens] at balanced
        -- What is behind closes the new opening first, and then as before.
        cases ih balanced with
        | @close _ inner behind closing closes bracketed unwinds =>
            have paired : (c, closing) ∈ anyPairs := mem_anyPairs_iff.mpr ⟨opens, closes⟩
            have front : Bracketed anyPairs (c :: (inner ++ [closing])) :=
              .pair paired bracketed .nil
            have whole := unwinds.behind front
            rwa [List.cons_append, List.append_assoc, List.singleton_append] at whole
      · rw [isBalancedFrom_closing closes, Bool.and_eq_true, bne_iff_ne] at balanced
        obtain ⟨isOpen, restBalanced⟩ := balanced
        obtain ⟨less, rfl⟩ := Nat.exists_eq_succ_of_ne_zero isOpen
        exact .close closes .nil (ih restBalanced)
      · rw [isBalancedFrom_plain unbracketed, Bool.and_eq_true] at balanced
        exact (ih balanced.2).behind (.plain unbracketed .nil)

/-- **A balanced text is bracketed** by pairs of any kind. -/
theorem bracketed_of_isBalancedFrom {text : Text} (balanced : isBalancedFrom 0 text = true) :
    Bracketed anyPairs text := by
  cases unwinds_of_isBalancedFrom balanced with
  | done bracketed => exact bracketed

/-- Behind a bracketed beginning the check goes on at the same depth. -/
theorem isBalancedFrom_of_append {before : Text} (bracketed : Bracketed anyPairs before)
    {depth : Nat} {rest : Text} (balanced : isBalancedFrom depth (before ++ rest) = true) :
    isBalancedFrom depth rest = true := by
  induction bracketed generalizing depth rest with
  | nil => exact balanced
  | plain unbracketed _ ih =>
      rw [List.cons_append, isBalancedFrom_plain unbracketed, Bool.and_eq_true] at balanced
      exact ih balanced.2
  | pair paired _ _ innerIh restIh =>
      obtain ⟨opens, closes⟩ := mem_anyPairs_iff.mp paired
      rw [List.cons_append, isBalancedFrom_opening opens, List.append_assoc] at balanced
      have closed := innerIh balanced
      rw [List.cons_append, isBalancedFrom_closing closes, Bool.and_eq_true] at closed
      exact restIh closed.2

/-- **No markup stands outside the brackets** of a balanced text. -/
theorem isMarkup_of_isBalancedFrom {before after : Text} {c : Char}
    (balanced : isBalancedFrom 0 (before ++ c :: after) = true)
    (outside : Bracketed anyPairs before) : isMarkup c = false := by
  have onwards := isBalancedFrom_of_append outside balanced
  rcases bracket_cases c with (rfl | rfl) | (rfl | rfl) | unbracketed
  iterate 4 decide
  rw [isBalancedFrom_plain unbracketed, Bool.and_eq_true] at onwards
  simpa using onwards.1

/-- **No blank of a token stands behind a beginning bracketed by kind.** -/
theorem IsTokenOf.isBlank {classList before after : Text} {c : Char}
    (isToken : IsTokenOf classList (before ++ c :: after))
    (outside : Bracketed likePairs before) : StateSheet.isBlank c = false := by
  rw [← Bool.not_eq_true]
  intro blank
  have buried := isToken.hidden before c after rfl blank
  rw [outside.after] at buried
  cases buried

/-! ## Extracted classes -/

theorem isBalancedFrom_of_isValid {token : Text} (valid : isValid token = true) :
    isBalancedFrom 0 token = true := by
  simp only [isValid, Bool.and_eq_true] at valid
  exact valid.1.2

/-- **An extracted class is bracketed.** Its brackets and parentheses close one
inside another, with no markup outside them, and neither markup nor a blank stands
behind a beginning that is bracketed by kind. The whole class is bracketed by kind
exactly when none of its brackets is closed by a parenthesis, and no parenthesis
by a bracket. -/
theorem extracted_classes_are_bracketed {text className : Text}
    (extracted : className ∈ extract text) :
    Bracketed anyPairs className ∧
    (∀ before c after, className = before ++ c :: after → Bracketed anyPairs before →
      isMarkup c = false) ∧
    (∀ before c after, className = before ++ c :: after → Bracketed likePairs before →
      isMarkup c = false ∧ isBlank c = false) ∧
    (Bracketed likePairs className ↔ ClosesInKind className) := by
  obtain ⟨classList, -, among, valid⟩ := mem_extract_iff.mp extracted
  have balanced := isBalancedFrom_of_isValid valid
  have bracketed := bracketed_of_isBalancedFrom balanced
  refine ⟨bracketed, ?_, ?_, ?_⟩
  · rintro before c after rfl outside
    exact isMarkup_of_isBalancedFrom balanced outside
  · rintro before c after rfl outside
    exact ⟨isMarkup_of_isBalancedFrom balanced (outside.mono likePairs_subset_anyPairs),
      (isTokenOf_of_mem among).isBlank outside⟩
  · exact bracketed_likePairs_iff.trans (and_iff_right bracketed)

/-- A class with blanks and markup inside two kinds of brackets. -/
theorem extracted_classes_are_bracketed_around_blanks :
    "ui-open:w-[calc(1px + (2px = x))]".toList ∈
      extract "<p class=\"flex ui-open:w-[calc(1px + (2px = x))] grid\">".toList ∧
    ClosesInKind "ui-open:w-[calc(1px + (2px = x))]".toList ∧
    Bracketed likePairs "ui-open:w-[calc(1px + (2px = x))]".toList := by
  have extracted : "ui-open:w-[calc(1px + (2px = x))]".toList ∈
      extract "<p class=\"flex ui-open:w-[calc(1px + (2px = x))] grid\">".toList :=
    mem_extract_iff.mpr ⟨"flex ui-open:w-[calc(1px + (2px = x))] grid".toList,
      List.mem_append_left _ (by decide), by decide, by decide⟩
  have inKind : ClosesInKind "ui-open:w-[calc(1px + (2px = x))]".toList :=
    .of_closesInKindFrom (by decide)
  exact ⟨extracted, inKind, (extracted_classes_are_bracketed extracted).2.2.2.mpr inKind⟩

/-- **A bracket closed by a parenthesis gets by.** The check takes the bracket for
closed, while the cut of the class list takes it for open and does not cut at the
blank behind it: the class that is extracted is not bracketed by kind, and a blank
stands in it behind what the check takes for the end of its brackets. -/
theorem unlike_pair_hides_blank :
    "a[) 1".toList ∈ extract "<p class=\"a[) 1\">".toList ∧
    ¬ Bracketed likePairs "a[) 1".toList ∧
    Bracketed anyPairs "a[)".toList := by
  have extracted : "a[) 1".toList ∈ extract "<p class=\"a[) 1\">".toList :=
    mem_extract_iff.mpr ⟨"a[) 1".toList, List.mem_append_left _ (by decide), by decide, by decide⟩
  refine ⟨extracted, fun like => ?_, bracketed_of_isBalancedFrom (by decide)⟩
  exact absurd (like.after {}) (by decide)

end StateSheet.Candidate
