import Mathlib.Data.List.Induction
import StateSheet.Proofs.Candidate.Attribute
import StateSheet.Proofs.ClassName.Split

/-!
# The cut at the first colon at the top

A nesting is two counters that do not see each other, one for brackets and one for parentheses
(`Nesting.after_eq_openBehind`). Each goes up at an opening character and down at a closing one,
and stays at zero rather than go below. So a closing character with nothing to close is
forgotten, and an opening one that is closed in the other kind stays open: nothing is open behind
a text exactly when no end of the text opens more of a kind than it closes
(`Nesting.isTop_after_iff`).

A class name is cut at its first colon where both counters are at zero, and nowhere else. Where
an extracted class is cut, something stands behind the colon
(`ClassName.cut_at_first_top_colon`).
-/

set_option autoImplicit false

namespace StateSheet

/-! ## Counters that stay at zero -/

/-- A counter after one more character: it goes up at one character, and down at another one
unless it is at zero. -/
def tick (opening closing : Char) (count : Nat) (c : Char) : Nat :=
  if c = opening then count + 1 else if c = closing then count - 1 else count

/-- What a counter shows behind a text that it enters with some count. -/
def openBehind (opening closing : Char) (count : Nat) (text : Text) : Nat :=
  text.foldl (tick opening closing) count

theorem openBehind_concat (opening closing : Char) (count : Nat) (text : Text) (last : Char) :
    openBehind opening closing count (text ++ [last]) =
      tick opening closing (openBehind opening closing count text) last := by
  rw [openBehind, List.foldl_append]
  rfl

/-- **A counter stays within a bound exactly when no end of the text goes beyond it**: when each
end opens no more than it closes and the bound allows. -/
theorem openBehind_le_iff {opening closing : Char} (different : opening ≠ closing) (text : Text)
    (bound : Nat) :
    openBehind opening closing 0 text ≤ bound ↔
      ∀ behind, behind <:+ text → behind.count opening ≤ behind.count closing + bound := by
  -- The ends of a text grow at the text's own end, so that is where the induction goes on.
  induction text using List.reverseRecOn generalizing bound with
  | nil => simp [openBehind]
  | append_singleton text last ih =>
      have ends : (∀ behind, behind <:+ text ++ [last] →
            behind.count opening ≤ behind.count closing + bound) ↔
          ∀ behind, behind <:+ text → (behind ++ [last]).count opening ≤
            (behind ++ [last]).count closing + bound := by
        simp only [List.suffix_concat_iff]
        constructor
        · intro whole behind isEnd
          exact whole _ (Or.inr ⟨behind, rfl, isEnd⟩)
        · rintro each _ (rfl | ⟨behind, rfl, isEnd⟩)
          · simp
          · exact each behind isEnd
      rw [openBehind_concat, ends, tick]
      simp only [List.count_append, List.count_singleton, beq_iff_eq]
      split
      · rename_i opens
        simp only [opens, different, if_false, Nat.add_zero]
        cases bound with
        | zero =>
            refine iff_of_false (Nat.not_succ_le_zero _) fun each => ?_
            exact Nat.not_succ_le_zero 0 (each [] (List.nil_suffix))
        | succ bound => simp only [← Nat.add_assoc, Nat.add_le_add_iff_right, ih]
      · split
        · simp only [Nat.add_zero, Nat.add_assoc, Nat.add_comm 1, Nat.sub_le_iff_le_add, ih]
        · simp only [Nat.add_zero, ih]

/-- A counter is at zero exactly when no end of the text opens more than it closes. -/
theorem openBehind_eq_zero_iff {opening closing : Char} (different : opening ≠ closing)
    (text : Text) :
    openBehind opening closing 0 text = 0 ↔
      ∀ behind, behind <:+ text → behind.count opening ≤ behind.count closing := by
  rw [← Nat.le_zero, openBehind_le_iff different]
  simp only [Nat.add_zero]

/-! ## Nestings -/

theorem Nesting.step_eq_tick (nesting : Nesting) (c : Char) :
    nesting.step c =
      { brackets := tick '[' ']' nesting.brackets c
        parentheses := tick '(' ')' nesting.parentheses c } := by
  unfold step tick
  split_ifs <;> simp_all

/-- The counters of the two kinds do not see each other. -/
theorem Nesting.after_eq_openBehind (nesting : Nesting) (text : Text) :
    nesting.after text =
      { brackets := openBehind '[' ']' nesting.brackets text
        parentheses := openBehind '(' ')' nesting.parentheses text } := by
  induction text generalizing nesting with
  | nil => rfl
  | cons c rest ih =>
      rw [after_cons, ih, step_eq_tick]
      rfl

/-- **Nothing is open behind a text exactly when no end of it opens more brackets than it closes,
nor more parentheses.** -/
theorem Nesting.isTop_after_iff (text : Text) :
    (Nesting.after {} text).isTop = true ↔ ∀ behind, behind <:+ text →
      behind.count '[' ≤ behind.count ']' ∧ behind.count '(' ≤ behind.count ')' := by
  rw [isTop_iff, after_eq_openBehind, openBehind_eq_zero_iff (by decide),
    openBehind_eq_zero_iff (by decide), ← forall₂_and]

/-! ## Cuts -/

namespace ClassName

/-- Both counters are at zero behind a text. -/
def AtTop (text : Text) : Prop :=
  openBehind '[' ']' 0 text = 0 ∧ openBehind '(' ')' 0 text = 0

theorem isTop_after_iff_atTop {text : Text} :
    (Nesting.after {} text).isTop = true ↔ AtTop text := by
  rw [Nesting.isTop_iff, Nesting.after_eq_openBehind]
  rfl

/-- A text hides its colons when none stands at the top. -/
theorem hidesColons_iff {text : Text} :
    Nesting.Hides {} (· = ':') text ↔
      ∀ before after, text = before ++ ':' :: after → ¬ AtTop before := by
  simp only [Nesting.Hides, ← isTop_after_iff_atTop, Bool.not_eq_true]
  constructor
  · intro hidden before after parts
    exact hidden before ':' after parts rfl
  · rintro each before _ after parts rfl
    exact each before after parts

/-- A class name is cut into a variant name and a utility at its first colon at the top. -/
structure IsCut (className token utility : Text) : Prop where
  written : className = token ++ ':' :: utility
  closed : AtTop token
  first : ∀ before after, token = before ++ ':' :: after → ¬ AtTop before

theorem split?_eq_some_iff_isCut {className token utility : Text} :
    split? className = some (token, utility) ↔ IsCut className token utility := by
  rw [split?_eq_some_iff, hidesColons_iff, ← Nesting.isTop_iff_eq, isTop_after_iff_atTop]
  exact ⟨fun ⟨written, first, closed⟩ => ⟨written, closed, first⟩,
    fun cut => ⟨cut.written, cut.first, cut.closed⟩⟩

/-- No extracted class ends in a colon. -/
theorem getLast?_ne_colon_of_extract {text className : Text}
    (extracted : className ∈ Candidate.extract text) : className.getLast? ≠ some ':' := by
  obtain ⟨_, _, _, valid⟩ := Candidate.mem_extract_iff.mp extracted
  intro colon
  simp [Candidate.isValid, Candidate.endsWell, colon] at valid

/-- **A class name is cut at its first colon at the top**: it is cut into two texts exactly when
they are what stands around a colon, with both counters at zero in front of it and no other
colon before it where they are. It is cut nowhere exactly when no colon stands where both
counters are at zero. There is at most one cut, and an extracted class that is cut has a
utility. -/
theorem cut_at_first_top_colon (className : Text) :
    (∀ token utility, split? className = some (token, utility) ↔
        IsCut className token utility) ∧
      (split? className = none ↔
        ∀ before after, className = before ++ ':' :: after → ¬ AtTop before) ∧
      (∀ token utility other rest, IsCut className token utility →
        IsCut className other rest → token = other ∧ utility = rest) ∧
      ∀ text, className ∈ Candidate.extract text → ∀ token utility,
        split? className = some (token, utility) → utility ≠ [] := by
  refine ⟨fun token utility => split?_eq_some_iff_isCut, ?_, ?_, ?_⟩
  · rw [split?, splitWithin?_eq_none_iff, hidesColons_iff]
  · intro token utility other rest cut otherCut
    have same := (split?_eq_some_iff_isCut.mpr cut).symm.trans
      (split?_eq_some_iff_isCut.mpr otherCut)
    cases same
    exact ⟨rfl, rfl⟩
  · rintro text extracted token _ cut rfl
    refine getLast?_ne_colon_of_extract extracted ?_
    rw [(split?_eq_some_iff_isCut.mp cut).written, List.getLast?_concat]

/-- Brackets hide a colon, and a parenthesis that is closed with nothing open is forgotten. A
bracket that only a parenthesis closes stays open, and no colon behind it is at the top. -/
theorem cut_at_first_top_colon_mixed :
    IsCut "ui-[a:b])]:hover:flex".toList "ui-[a:b])]".toList "hover:flex".toList ∧
      (∀ before after, "ui-[a):b".toList = before ++ ':' :: after → ¬ AtTop before) ∧
      ∀ utility, split? "ui-[a:b]:flex".toList = some ("ui-[a:b]".toList, utility) →
        utility ≠ [] := by
  obtain ⟨cuts, _⟩ := cut_at_first_top_colon "ui-[a:b])]:hover:flex".toList
  obtain ⟨_, whole, _⟩ := cut_at_first_top_colon "ui-[a):b".toList
  obtain ⟨_, _, _, given⟩ := cut_at_first_top_colon "ui-[a:b]:flex".toList
  have extracted : "ui-[a:b]:flex".toList ∈
      Candidate.extract "class='ui-[a:b]:flex'".toList := by decide +kernel
  exact ⟨(cuts _ _).mp (by decide), whole.mp (by decide), given _ extracted _⟩

end ClassName

end StateSheet
