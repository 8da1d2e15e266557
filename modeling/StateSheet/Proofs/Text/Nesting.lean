import StateSheet.Text.Nesting

/-!
# Hidden characters

A nesting hides the characters of one kind in a text when none of them stands
at the top in the text that follows it (`Nesting.Hides`). Hiding is decided
character by character and part by part (`hides_cons`, `hides_append`), and where
one of them is not hidden there is a first (`hides_or_exists_first`). Class names
are cut where a colon is not hidden, class lists where a blank is not.

Only brackets and parentheses change a nesting (`step_of_not_isBracket`), and a
text without them leaves it as it is (`after_of_plain`).
-/

set_option autoImplicit false

namespace StateSheet.Nesting

/-- No character of a kind stands at the top of a text, when the text continues
one with the given nesting. -/
def Hides (nesting : Nesting) (kind : Char → Prop) (text : Text) : Prop :=
  ∀ before c after, text = before ++ c :: after → kind c → (nesting.after before).isTop = false

theorem isTop_iff_eq {nesting : Nesting} : nesting.isTop = true ↔ nesting = {} := by
  rw [isTop_iff]
  constructor
  · intro closed
    cases nesting
    obtain ⟨rfl, rfl⟩ := closed
    rfl
  · rintro rfl
    exact ⟨rfl, rfl⟩

variable {nesting : Nesting} {kind : Char → Prop}

theorem hides_nil : nesting.Hides kind [] := by
  intro before c after parts
  cases before <;> cases parts

/-- Characters are hidden in a text when the first does not stand at the top and
they are hidden behind it. -/
theorem hides_cons {c : Char} {rest : Text} :
    nesting.Hides kind (c :: rest) ↔
      ¬ (kind c ∧ nesting.isTop = true) ∧ (nesting.step c).Hides kind rest := by
  constructor
  · intro hidden
    refine ⟨?_, fun before d after parts => ?_⟩
    · rintro ⟨ofKind, atTop⟩
      have buried : nesting.isTop = false := hidden [] c rest rfl ofKind
      rw [atTop] at buried
      cases buried
    · exact hidden (c :: before) d after (by rw [parts, List.cons_append])
  · rintro ⟨firstHidden, restHidden⟩ before d after parts ofKind
    cases before with
    | nil =>
        obtain ⟨rfl, rfl⟩ := List.cons.inj parts
        rw [after_nil, ← Bool.not_eq_true]
        exact fun atTop => firstHidden ⟨ofKind, atTop⟩
    | cons e more =>
        obtain ⟨rfl, tailParts⟩ := List.cons.inj parts
        rw [after_cons]
        exact restHidden more d after tailParts ofKind

theorem hides_append {first second : Text} :
    nesting.Hides kind (first ++ second) ↔
      nesting.Hides kind first ∧ (nesting.after first).Hides kind second := by
  induction first generalizing nesting with
  | nil => simp [hides_nil]
  | cons c rest ih =>
      rw [List.cons_append, hides_cons, hides_cons, after_cons, ih, and_assoc]

theorem hides_of_forall_not {text : Text} (absent : ∀ c ∈ text, ¬ kind c) :
    nesting.Hides kind text := by
  intro before c after parts ofKind
  refine absurd ofKind (absent c ?_)
  rw [parts]
  exact List.mem_append_right _ List.mem_cons_self

/-- A text that does not hide its characters of a kind has a first one at the top. -/
theorem hides_or_exists_first (nesting : Nesting) (kind : Char → Prop) (text : Text) :
    nesting.Hides kind text ∨ ∃ before c rest, text = before ++ c :: rest ∧ kind c ∧
      nesting.Hides kind before ∧ nesting.after before = {} := by
  induction text generalizing nesting with
  | nil => exact Or.inl hides_nil
  | cons c rest ih =>
      by_cases here : kind c ∧ nesting.isTop = true
      · obtain ⟨ofKind, atTop⟩ := here
        exact Or.inr ⟨[], c, rest, rfl, ofKind, hides_nil, isTop_iff_eq.mp atTop⟩
      · rcases ih (nesting.step c) with hidden | ⟨before, d, behind, rfl, ofKind, hidden, closed⟩
        · exact Or.inl (hides_cons.mpr ⟨here, hidden⟩)
        · exact Or.inr ⟨c :: before, d, behind, rfl, ofKind, hides_cons.mpr ⟨here, hidden⟩, closed⟩

theorem hidesColons_of_not_mem {text : Text} (absent : ':' ∉ text) :
    nesting.Hides (· = ':') text := by
  refine hides_of_forall_not fun c member colon => absent ?_
  rw [← colon]
  exact member

/-! ## Characters that change a nesting -/

/-- Is a character a bracket or a parenthesis? -/
def isBracket (c : Char) : Bool := c == '[' || c == ']' || c == '(' || c == ')'

theorem isBracket_eq_false_iff {c : Char} :
    isBracket c = false ↔ ¬ (c = '[' ∨ c = '(') ∧ ¬ (c = ']' ∨ c = ')') := by
  simp only [isBracket, Bool.or_eq_false_iff, beq_eq_false_iff_ne, not_or]
  constructor
  · rintro ⟨⟨⟨notOpen, notClose⟩, notOpenRound⟩, notCloseRound⟩
    exact ⟨⟨notOpen, notOpenRound⟩, notClose, notCloseRound⟩
  · rintro ⟨⟨notOpen, notOpenRound⟩, notClose, notCloseRound⟩
    exact ⟨⟨⟨notOpen, notClose⟩, notOpenRound⟩, notCloseRound⟩

theorem step_of_not_isBracket {c : Char} (plain : isBracket c = false) :
    nesting.step c = nesting := by
  have noBracket := isBracket_eq_false_iff.mp plain
  simp only [not_or] at noBracket
  obtain ⟨⟨notOpen, notOpenRound⟩, notClose, notCloseRound⟩ := noBracket
  simp only [step, notOpen, notClose, notOpenRound, notCloseRound, if_false]

theorem after_of_plain {text : Text} (plain : ∀ c ∈ text, isBracket c = false) :
    nesting.after text = nesting := by
  induction text with
  | nil => rfl
  | cons c rest ih =>
      rw [after_cons, step_of_not_isBracket (plain c List.mem_cons_self)]
      exact ih fun d member => plain d (List.mem_cons_of_mem _ member)

end StateSheet.Nesting
