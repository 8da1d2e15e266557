import StateSheet.Variant.Reader
import Mathlib.Data.List.Infix

/-!
# The grammar of variant names

A token is a variant name exactly when it is the opening of a family followed
by a state that is not empty and that the family keeps whole: a state that
itself starts like a further part of a name would be read as that part. The
families that end in a relation keep every state (`Family.Keeps`).

Reading a token has one of three outcomes, and each is given by the token
alone (`read_cases`): it lacks the mark, it is an opening without a state, or
it is the name of one variant. Writing the name of a variant and reading it
are inverse to each other on the states that a family keeps
(`read_name_of_keeps`).
-/

set_option autoImplicit false

namespace StateSheet

theorem Text.dropPrefix?_eq_none_iff {beginning text : Text} :
    dropPrefix? beginning text = none ↔ ¬ beginning <+: text := by
  rw [Option.eq_none_iff_forall_ne_some]
  constructor
  · rintro missing ⟨rest, rfl⟩
    exact missing rest (dropPrefix?_append beginning rest)
  · intro absent rest found
    exact absent ⟨rest, (dropPrefix?_eq_some_iff.mp found).symm⟩

namespace Family

/-- The states that the names of a family keep whole. Without a relation in the
opening, a state must not start like one, and without a negation either it
must not start like a negation. -/
def Keeps : Family → Text → Prop
  | state, text =>
      ¬ ['n', 'o', 't', '-'] <+: text ∧ ¬ ['g', 'r', 'o', 'u', 'p', '-'] <+: text ∧
        ¬ ['p', 'e', 'e', 'r', '-'] <+: text
  | notState, text =>
      ¬ ['g', 'r', 'o', 'u', 'p', '-'] <+: text ∧ ¬ ['p', 'e', 'e', 'r', '-'] <+: text
  | group, _ | notGroup, _ | peer, _ | notPeer, _ => True

instance (family : Family) (text : Text) : Decidable (family.Keeps text) := by
  cases family <;> unfold Keeps <;> infer_instance

theorem keeps_nil (family : Family) : family.Keeps [] := by
  cases family <;> simp [Keeps]

end Family

namespace Variant

/-! ## The parts of a name -/

/-- The text of a negation. -/
def negationPart : Bool → Text
  | true => ['n', 'o', 't', '-']
  | false => []

/-- The text of a relation. -/
def relationPart : Relation → Text
  | .self => []
  | .group => ['g', 'r', 'o', 'u', 'p', '-']
  | .peer => ['p', 'e', 'e', 'r', '-']

/-- The opening of a family is the mark and the parts for its negation and its
relation. -/
theorem opening_of (relation : Relation) (negated : Bool) :
    (Family.of relation negated).opening =
      mark ++ (negationPart negated ++ relationPart relation) := by
  cases relation <;> cases negated <;> rfl

/-- A text is the negation read from it followed by the rest, and where none is
read the text starts with none. -/
theorem readNegation_spec (text : Text) :
    ∃ negated rest, readNegation text = (negated, rest) ∧ text = negationPart negated ++ rest ∧
      (negated = false → ¬ ['n', 'o', 't', '-'] <+: rest) := by
  unfold readNegation
  cases found : Text.dropPrefix? ['n', 'o', 't', '-'] text with
  | some rest =>
      exact ⟨true, rest, rfl, Text.dropPrefix?_eq_some_iff.mp found, Bool.noConfusion⟩
  | none =>
      exact ⟨false, text, rfl, rfl, fun _ => Text.dropPrefix?_eq_none_iff.mp found⟩

theorem readNegation_append {negated : Bool} {rest : Text}
    (absent : negated = false → ¬ ['n', 'o', 't', '-'] <+: rest) :
    readNegation (negationPart negated ++ rest) = (negated, rest) := by
  unfold readNegation
  cases negated with
  | true =>
      rw [negationPart, Text.dropPrefix?_append]
  | false =>
      rw [negationPart, List.nil_append, Text.dropPrefix?_eq_none_iff.mpr (absent rfl)]

theorem readRelation_spec (text : Text) :
    ∃ relation rest, readRelation text = (relation, rest) ∧ text = relationPart relation ++ rest ∧
      (relation = .self →
        ¬ ['g', 'r', 'o', 'u', 'p', '-'] <+: rest ∧ ¬ ['p', 'e', 'e', 'r', '-'] <+: rest) := by
  unfold readRelation
  cases asGroup : Text.dropPrefix? ['g', 'r', 'o', 'u', 'p', '-'] text with
  | some rest =>
      exact ⟨.group, rest, rfl, Text.dropPrefix?_eq_some_iff.mp asGroup, Relation.noConfusion⟩
  | none =>
      have noGroup := Text.dropPrefix?_eq_none_iff.mp asGroup
      cases asPeer : Text.dropPrefix? ['p', 'e', 'e', 'r', '-'] text with
      | some rest =>
          exact ⟨.peer, rest, rfl, Text.dropPrefix?_eq_some_iff.mp asPeer, Relation.noConfusion⟩
      | none =>
          exact ⟨.self, text, rfl, rfl, fun _ => ⟨noGroup, Text.dropPrefix?_eq_none_iff.mp asPeer⟩⟩

theorem readRelation_append {relation : Relation} {rest : Text}
    (absent : relation = .self →
      ¬ ['g', 'r', 'o', 'u', 'p', '-'] <+: rest ∧ ¬ ['p', 'e', 'e', 'r', '-'] <+: rest) :
    readRelation (relationPart relation ++ rest) = (relation, rest) := by
  unfold readRelation
  cases relation with
  | self =>
      obtain ⟨noGroup, noPeer⟩ := absent rfl
      rw [relationPart, List.nil_append, Text.dropPrefix?_eq_none_iff.mpr noGroup,
        Text.dropPrefix?_eq_none_iff.mpr noPeer]
  | group =>
      rw [relationPart, Text.dropPrefix?_append]
  | peer =>
      have noGroup : ¬ ['g', 'r', 'o', 'u', 'p', '-'] <+: relationPart .peer ++ rest := by
        simp [relationPart]
      rw [Text.dropPrefix?_eq_none_iff.mpr noGroup, relationPart, Text.dropPrefix?_append]

/-- A state is kept by the family of a relation and a negation exactly when
neither part is read from what follows its opening. -/
theorem keeps_of_iff {relation : Relation} {negated : Bool} {state : Text} :
    (Family.of relation negated).Keeps state ↔
      (negated = false → ¬ ['n', 'o', 't', '-'] <+: relationPart relation ++ state) ∧
        (relation = .self →
          ¬ ['g', 'r', 'o', 'u', 'p', '-'] <+: state ∧ ¬ ['p', 'e', 'e', 'r', '-'] <+: state) := by
  cases relation <;> cases negated <;> simp [Family.of, Family.Keeps, relationPart]

/-! ## The outcomes of reading -/

/-- What reading comes to behind the mark, once the parts are known. -/
theorem read_mark_append {unmarked positive state : Text} {relation : Relation} {negated : Bool}
    (first : readNegation unmarked = (negated, positive))
    (second : readRelation positive = (relation, state)) :
    read (mark ++ unmarked) =
      if state = [] then .error (.emptyState (mark ++ unmarked))
      else .ok { relation, negated, state } := by
  simp only [read, Text.dropPrefix?_append, first, second]

/-- **A name is read as its family and its state, when the family keeps the
state.** Without a state nothing is named. -/
theorem read_name_of_keeps {family : Family} {state : Text} (keeps : family.Keeps state) :
    read (family.name state) =
      if state = [] then .error (.emptyState (family.name state))
      else .ok (family.variant state) := by
  rw [← Family.of_relation_negated family] at keeps
  obtain ⟨noNegation, noRelation⟩ := keeps_of_iff.mp keeps
  have spelled : family.name state =
      mark ++ (negationPart family.negated ++ (relationPart family.relation ++ state)) := by
    rw [Family.name, ← Family.of_relation_negated family, opening_of]
    simp
  rw [spelled, read_mark_append (readNegation_append noNegation) (readRelation_append noRelation)]
  rfl

/-- **What reading a token comes to.** Either the token lacks the mark, or it is
the name of a state that its family keeps. -/
theorem read_cases (token : Text) :
    (¬ mark <+: token ∧ read token = .error (.foreign token)) ∨
      ∃ family state, token = Family.name family state ∧ family.Keeps state := by
  cases found : Text.dropPrefix? mark token with
  | none =>
      refine Or.inl ⟨Text.dropPrefix?_eq_none_iff.mp found, ?_⟩
      simp only [read, found]
  | some unmarked =>
      obtain ⟨negated, positive, _, negation, noNegation⟩ := readNegation_spec unmarked
      obtain ⟨relation, state, _, related, noRelation⟩ := readRelation_spec positive
      refine Or.inr ⟨Family.of relation negated, state, ?_, ?_⟩
      · rw [Text.dropPrefix?_eq_some_iff.mp found, negation, related, Family.name, opening_of]
        simp
      · exact keeps_of_iff.mpr ⟨fun positively => related ▸ noNegation positively, noRelation⟩

/-- A token names a variant exactly when it is the opening of the variant's
family followed by its state, which is there and is kept whole. -/
theorem read_eq_ok_iff {token : Text} {variant : Variant} :
    read token = .ok variant ↔
      token = variant.family.name variant.state ∧ variant.state ≠ [] ∧
        variant.family.Keeps variant.state := by
  constructor
  · intro named
    rcases read_cases token with ⟨_, foreign⟩ | ⟨family, state, rfl, keeps⟩
    · rw [foreign] at named
      cases named
    · rw [read_name_of_keeps keeps] at named
      split at named
      · cases named
      · rename_i present
        cases named
        rw [family_variant]
        exact ⟨rfl, present, keeps⟩
  · rintro ⟨spelled, present, keeps⟩
    rw [spelled, read_name_of_keeps keeps, if_neg present, variant_family]

theorem read_eq_emptyState_iff {token named : Text} :
    read token = .error (.emptyState named) ↔
      named = token ∧ ∃ family : Family, token = family.opening := by
  constructor
  · intro failed
    rcases read_cases token with ⟨_, foreign⟩ | ⟨family, state, rfl, keeps⟩
    · rw [foreign] at failed
      cases failed
    · rw [read_name_of_keeps keeps] at failed
      split at failed
      · rename_i absent
        cases failed
        exact ⟨rfl, family, by rw [absent, Family.name, List.append_nil]⟩
      · cases failed
  · rintro ⟨rfl, family, rfl⟩
    have bare : family.opening = family.name [] := (List.append_nil _).symm
    rw [bare, read_name_of_keeps family.keeps_nil, if_pos rfl]

theorem mark_prefix_name (family : Family) (state : Text) : mark <+: family.name state := by
  rw [Family.name, ← Family.of_relation_negated family, opening_of, List.append_assoc]
  exact List.prefix_append _ _

theorem read_eq_foreign_iff {token named : Text} :
    read token = .error (.foreign named) ↔ named = token ∧ ¬ mark <+: token := by
  constructor
  · intro failed
    rcases read_cases token with ⟨unmarked, foreign⟩ | ⟨family, state, rfl, keeps⟩
    · rw [foreign] at failed
      cases failed
      exact ⟨rfl, unmarked⟩
    · rw [read_name_of_keeps keeps] at failed
      split at failed <;> cases failed
  · rintro ⟨rfl, unmarked⟩
    rcases read_cases named with ⟨_, foreign⟩ | ⟨family, state, rfl, _⟩
    · exact foreign
    · exact absurd (mark_prefix_name family state) unmarked

theorem read?_eq_some_iff {token : Text} {variant : Variant} :
    read? token = some variant ↔ read token = .ok variant := by
  unfold read?
  cases read token <;> simp [Except.toOption]

theorem read?_of_error {token : Text} {fault : VariantFault}
    (refused : read token = .error fault) : read? token = none := by
  rw [read?, refused]
  rfl

/-- **Reading and naming are inverse to each other on the states that a family
keeps, and reading accepts nothing else.** A token that is refused is an
opening without a state or lacks the mark, and the fault names the token. A
name is read back as its family and its state exactly when the state is there
and the family keeps it. -/
theorem reading_inverts_naming :
    (∀ (token : Text) (variant : Variant), read token = .ok variant ↔
      token = variant.family.name variant.state ∧ variant.state ≠ [] ∧
        variant.family.Keeps variant.state) ∧
    (∀ token named : Text, read token = .error (.emptyState named) ↔
      named = token ∧ ∃ family ∈ Family.all, token = family.opening) ∧
    (∀ token named : Text, read token = .error (.foreign named) ↔
      named = token ∧ ¬ "ui-".toList <+: token) ∧
    (∀ (family : Family) (state : Text),
      (∃ variant, read (family.name state) = .ok variant ∧ variant.family = family ∧
        variant.state = state) ↔ state ≠ [] ∧ family.Keeps state) := by
  refine ⟨fun _ _ => read_eq_ok_iff, fun token named => ?_, fun _ _ => read_eq_foreign_iff,
    fun family state => ?_⟩
  · rw [read_eq_emptyState_iff]
    simp only [Family.mem_all, true_and]
  · constructor
    · rintro ⟨variant, named, rfl, rfl⟩
      exact (read_eq_ok_iff.mp named).2
    · rintro ⟨present, keeps⟩
      refine ⟨family.variant state, ?_, family_variant family state, rfl⟩
      rw [read_name_of_keeps keeps, if_neg present]

/-- A negation behind a relation belongs to the state, and in front of one it
does not. -/
example : read "ui-group-not-open".toList = .ok (Family.group.variant "not-open".toList) ∧
    read (Family.state.name "not-open".toList) = .ok (Family.notState.variant "open".toList) := by
  decide

end Variant

end StateSheet
