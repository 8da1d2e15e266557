import StateSheet.Proofs.Candidate.Brackets
import StateSheet.Proofs.ClassName.Split
import StateSheet.Proofs.Selector.Escape
import StateSheet.Proofs.Stylesheet.Generation

/-!
# Classes in plain words

A class whose state and utility are plain words, letters, digits, hyphens and
underscores, is a valid candidate (`PlainClass.isValid`). It is cut behind its
variant name, which is read back, and its rule fills in the selector template of
its family (`PlainClass.isOf`).
-/

set_option autoImplicit false

namespace StateSheet

/-! ## Plain words -/

/-- Can a character stand in a plain word: a letter or digit of ASCII, a hyphen
or an underscore? -/
def isWordChar (c : Char) : Bool := c.isAlphanum || c == '-' || c == '_'

theorem ne_of_isWordChar {c d : Char} (word : isWordChar c = true)
    (other : isWordChar d = false) : c ≠ d := by
  rintro rfl
  rw [word] at other
  cases other

theorem toNat_of_isWordChar {c : Char} (word : isWordChar c = true) :
    0x2D ≤ c.toNat ∧ c.toNat ≤ 0x7A := by
  have between : ∀ {low high : Char}, low.val ≤ c.val → c.val ≤ high.val → 0x2D ≤ low.toNat →
      high.toNat ≤ 0x7A → 0x2D ≤ c.toNat ∧ c.toNat ≤ 0x7A := by
    intro low high above below lowest highest
    exact ⟨Nat.le_trans lowest (UInt32.le_iff_toNat_le.mp above),
      Nat.le_trans (UInt32.le_iff_toNat_le.mp below) highest⟩
  simp only [isWordChar, Bool.or_eq_true, beq_iff_eq] at word
  rcases word with (alphanumeric | rfl) | rfl
  · rcases Bool.or_eq_true_iff.mp alphanumeric with letter | digit
    · rcases Bool.or_eq_true_iff.mp letter with upper | lower
      · obtain ⟨above, below⟩ := of_decide_eq_true upper
        exact between above below (by decide) (by decide)
      · obtain ⟨above, below⟩ := Bool.and_eq_true_iff.mp lower
        exact between (of_decide_eq_true above) (of_decide_eq_true below) (by decide) (by decide)
    · obtain ⟨above, below⟩ := Bool.and_eq_true_iff.mp digit
      exact between (of_decide_eq_true above) (of_decide_eq_true below) (by decide) (by decide)
  · decide
  · decide

theorem isBlank_of_isWordChar {c : Char} (word : isWordChar c = true) : isBlank c = false := by
  obtain ⟨low, high⟩ := toNat_of_isWordChar word
  rw [← Bool.not_eq_true]
  intro blank
  simp only [isBlank, blankRanges, List.any_cons, List.any_nil, Bool.or_eq_true,
    Bool.and_eq_true, decide_eq_true_eq, Bool.false_eq_true, or_false] at blank
  omega

theorem isBracket_of_isWordChar {c : Char} (word : isWordChar c = true) :
    Nesting.isBracket c = false := by
  simp only [Nesting.isBracket, Bool.or_eq_false_iff, beq_eq_false_iff_ne]
  exact ⟨⟨⟨ne_of_isWordChar word rfl, ne_of_isWordChar word rfl⟩, ne_of_isWordChar word rfl⟩,
    ne_of_isWordChar word rfl⟩

theorem isMarkup_of_isWordChar {c : Char} (word : isWordChar c = true) :
    Candidate.isMarkup c = false := by
  rw [← Bool.not_eq_true]
  intro markup
  simp only [Candidate.isMarkup, List.contains_eq_mem, decide_eq_true_eq, List.mem_cons,
    List.not_mem_nil, or_false] at markup
  rcases markup with rfl | rfl | rfl | rfl | rfl | rfl | rfl | rfl | rfl | rfl <;> cases word

/-! ## Classes in plain words -/

/-- A state and a utility in plain words, neither of them empty, the state one
that the family keeps whole. -/
structure PlainClass (family : Family) (state utility : Text) : Prop where
  keeps : family.Keeps state
  stateGiven : state ≠ []
  stateWord : ∀ c ∈ state, isWordChar c = true
  utilityGiven : utility ≠ []
  utilityWord : ∀ c ∈ utility, isWordChar c = true

/-- The class name of a state in a family with a utility. -/
def Family.className (family : Family) (state utility : Text) : Text :=
  family.name state ++ ':' :: utility

/-- The selector template of a family, with the state and the escaped class
filled in. -/
def Family.template (family : Family) (state escapedClass : Text) : Text :=
  let present : Text := "[data-state=\"".toList ++ state ++ ['"', ']']
  let absent : Text := ":not(".toList ++ present ++ [')']
  match family with
  | .state => escapedClass ++ present
  | .notState => escapedClass ++ absent
  | .group => ".group".toList ++ present ++ [' '] ++ escapedClass
  | .notGroup => ".group".toList ++ absent ++ [' '] ++ escapedClass
  | .peer => ".peer".toList ++ present ++ " ~ ".toList ++ escapedClass
  | .notPeer => ".peer".toList ++ absent ++ " ~ ".toList ++ escapedClass

theorem Selector.build_eq_template (family : Family) (state className : Text) :
    build (family.variant state) className = family.template state ('.' :: escape className) := by
  cases family <;> rfl

/-- A text without brackets and markup is balanced at every depth that closes. -/
theorem Candidate.isBalancedFrom_of_plain {text : Text}
    (plain : ∀ c ∈ text, Nesting.isBracket c = false ∧ isMarkup c = false) :
    isBalancedFrom 0 text = true := by
  induction text with
  | nil => rfl
  | cons c rest ih =>
      obtain ⟨bracketFree, markupFree⟩ := plain c List.mem_cons_self
      rw [isBalancedFrom_plain bracketFree, markupFree]
      exact ih fun d member => plain d (List.mem_cons_of_mem _ member)

namespace PlainClass

variable {family : Family} {state utility : Text}

theorem name_word (plain : PlainClass family state utility) :
    ∀ c ∈ family.name state, isWordChar c = true := by
  have opening : family.opening.all isWordChar = true := by
    cases family <;> rfl
  intro c member
  rcases List.mem_append.mp member with inOpening | inState
  · exact List.all_eq_true.mp opening c inOpening
  · exact plain.stateWord c inState

theorem colon_not_mem_name (plain : PlainClass family state utility) :
    ':' ∉ family.name state :=
  fun member => ne_of_isWordChar (plain.name_word _ member) rfl rfl

theorem colon_not_mem_utility (plain : PlainClass family state utility) : ':' ∉ utility :=
  fun member => ne_of_isWordChar (plain.utilityWord _ member) rfl rfl

/-- What holds of word characters and of the colon holds of every character of a
class in plain words. -/
theorem forall_of_word (plain : PlainClass family state utility) {kind : Char → Prop}
    (ofWord : ∀ c, isWordChar c = true → kind c) (ofColon : kind ':') :
    ∀ c ∈ family.className state utility, kind c := by
  intro c member
  rcases List.mem_append.mp member with inName | behind
  · exact ofWord c (plain.name_word c inName)
  · rcases List.mem_cons.mp behind with rfl | inUtility
    · exact ofColon
    · exact ofWord c (plain.utilityWord c inUtility)

theorem ne (plain : PlainClass family state utility) {other : Char}
    (notWord : isWordChar other = false) (notColon : ':' ≠ other) :
    ∀ c ∈ family.className state utility, c ≠ other :=
  plain.forall_of_word (fun _ word => ne_of_isWordChar word notWord) notColon

theorem isBracket (plain : PlainClass family state utility) :
    ∀ c ∈ family.className state utility, Nesting.isBracket c = false :=
  plain.forall_of_word (fun _ word => isBracket_of_isWordChar word) rfl

theorem isBlank (plain : PlainClass family state utility) :
    ∀ c ∈ family.className state utility, StateSheet.isBlank c = false :=
  plain.forall_of_word (fun _ word => isBlank_of_isWordChar word) rfl

theorem isMarkup (plain : PlainClass family state utility) :
    ∀ c ∈ family.className state utility, Candidate.isMarkup c = false :=
  plain.forall_of_word (fun _ word => isMarkup_of_isWordChar word) rfl

theorem endsWell (plain : PlainClass family state utility) :
    Candidate.endsWell (family.className state utility) = true := by
  obtain ⟨front, last, rfl⟩ := List.eq_nil_or_concat utility |>.resolve_left plain.utilityGiven
  have word : isWordChar last = true := plain.utilityWord last (by simp)
  have ending : (family.className state (front.concat last)).getLast? = some last := by
    rw [Family.className, List.concat_eq_append, ← List.cons_append, ← List.append_assoc,
      List.getLast?_concat]
  rw [Candidate.endsWell, ending]
  simp only [bne_iff_ne, Bool.and_eq_true]
  exact ⟨ne_of_isWordChar word rfl, ne_of_isWordChar word rfl⟩

/-- A class in plain words is a valid candidate. -/
theorem isValid (plain : PlainClass family state utility) :
    Candidate.isValid (family.className state utility) = true := by
  have starts : Candidate.startsWell (family.className state utility) = true ∧
      (family.className state utility).any Char.isAlpha = true := by
    cases family <;> exact ⟨rfl, rfl⟩
  have balanced : Candidate.isBalancedFrom 0 (family.className state utility) = true :=
    Candidate.isBalancedFrom_of_plain fun c member =>
      ⟨plain.isBracket c member, plain.isMarkup c member⟩
  rw [Candidate.isValid, starts.1, starts.2, plain.endsWell, balanced]
  rfl

theorem split? (plain : PlainClass family state utility) :
    ClassName.split? (family.className state utility) = some (family.name state, utility) :=
  ClassName.split?_eq_some_iff.mpr
    ⟨rfl, Nesting.hidesColons_of_not_mem plain.colon_not_mem_name,
      Nesting.after_of_plain fun c member => isBracket_of_isWordChar (plain.name_word c member)⟩

/-- A class in plain words has the rule that fills in the template of its family,
when its utility declares something. -/
theorem isOf (plain : PlainClass family state utility) {utility? : Text → Option Text}
    {declared : Text} (known : utility? utility = some declared)
    (usable : Declaration.readAll declared ≠ []) :
    Rule.IsOf utility? (family.className state utility)
      { selector := family.template state ('.' :: (family.name state ++ ['\\', ':'] ++ utility))
        declarations := Declaration.readAll declared } := by
  have escaped : Selector.escape (family.className state utility) =
      family.name state ++ ['\\', ':'] ++ utility := by
    rw [Family.className, Selector.escape_append, Selector.escape_cons, if_pos rfl,
      Selector.escape_of_not_mem plain.colon_not_mem_name,
      Selector.escape_of_not_mem plain.colon_not_mem_utility, List.append_assoc]
  refine ⟨family.name state, utility, family.variant state, declared, plain.split?, ?_, known,
    usable, ?_, rfl⟩
  · rw [Variant.read_name_of_keeps plain.keeps, if_neg plain.stateGiven]
  · rw [Selector.build_eq_template, escaped]

end PlainClass

end StateSheet
