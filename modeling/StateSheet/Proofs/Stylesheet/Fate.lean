import StateSheet.Stylesheet.Basic
import StateSheet.Proofs.Registry
import StateSheet.Proofs.Variant.Grammar

/-!
# The fate of a class alone

What becomes of a class in a stylesheet is settled by its own name and by the
utilities (`Fate.ofClass`). Two predicates say so without a registry: a rule is
the rule of a class (`Rule.IsOf`), and a class asks for a rule in vain
(`ClassName.AsksInVain`).

The stylesheet of a class list gives every class of the list the fate that it
has alone (`Fate.of_register`). So the rule found for a class does not depend
on the other classes (`Stylesheet.get?_ofClasses`), and the classes skipped are
counted one by one (`Stylesheet.skipped_ofClasses`). Both hold as well when no
variant was registered and the utilities were never looked at.
-/

set_option autoImplicit false

namespace StateSheet

/-- A rule is the rule of a class: the class leads with the name of a variant,
its utility is known and declares something, and the rule pairs the selector of
the class under the variant with what is declared. -/
def Rule.IsOf (utility? : Text → Option Text) (className : Text) (rule : Rule) : Prop :=
  ∃ token utility variant declared,
    ClassName.split? className = some (token, utility) ∧ Variant.read token = .ok variant ∧
      utility? utility = some declared ∧ Declaration.readAll declared ≠ [] ∧
        rule.selector = Selector.build variant className ∧
          rule.declarations = Declaration.readAll declared

/-- A class asks for a rule in vain: it leads with a variant name that lacks a
state, or with the name of a variant while its utility is unknown. -/
def ClassName.AsksInVain (utility? : Text → Option Text) (className : Text) : Prop :=
  ∃ token utility, ClassName.split? className = some (token, utility) ∧
    (Variant.read token = .error (.emptyState token) ∨
      (∃ variant, Variant.read token = .ok variant) ∧ utility? utility = none)

namespace Fate

/-- What becomes of a class under the given utilities, from its name alone. -/
def ofClass (utility? : Text → Option Text) (className : Text) : Fate :=
  match ClassName.split? className with
  | none => ignored
  | some (token, utility) =>
      match Variant.read token with
      | .error (.foreign _) => ignored
      | .error (.emptyState _) => skipped
      | .ok variant =>
          match utility? utility with
          | none => skipped
          | some declared =>
              match Declaration.readAll declared with
              | [] => ignored
              | first :: more =>
                  ruled
                    { selector := Selector.build variant className, declarations := first :: more }

/-! ## The fate as a predicate -/

variable {utility? : Text → Option Text} {className : Text}

/-- A class is given a rule exactly when the rule is its own. -/
theorem ofClass_eq_ruled_iff {rule : Rule} :
    ofClass utility? className = ruled rule ↔ rule.IsOf utility? className := by
  unfold ofClass Rule.IsOf
  constructor
  · intro granted
    split at granted
    · cases granted
    · rename_i token utility cut
      split at granted
      · cases granted
      · cases granted
      · rename_i variant named
        split at granted
        · cases granted
        · rename_i declared known
          split at granted
          · cases granted
          · rename_i first more usable
            cases granted
            refine ⟨token, utility, variant, declared, cut, named, known, ?_, rfl, usable.symm⟩
            rw [usable]
            exact List.cons_ne_nil first more
  · rintro ⟨token, utility, variant, declared, cut, named, known, usable, selected, declares⟩
    obtain ⟨first, more, declarations⟩ := List.exists_cons_of_ne_nil usable
    simp only [cut, named, known, declarations]
    cases rule
    rw [declarations] at declares
    cases selected
    cases declares
    rfl

theorem ofClass_eq_skipped_iff :
    ofClass utility? className = skipped ↔ ClassName.AsksInVain utility? className := by
  unfold ofClass ClassName.AsksInVain
  constructor
  · intro passed
    split at passed
    · cases passed
    · rename_i token utility cut
      refine ⟨token, utility, cut, ?_⟩
      split at passed
      · cases passed
      · rename_i named stateless
        rw [(Variant.read_eq_emptyState_iff.mp stateless).1] at stateless
        exact Or.inl stateless
      · rename_i variant named
        split at passed
        · rename_i unknown
          exact Or.inr ⟨⟨variant, named⟩, unknown⟩
        · split at passed <;> cases passed
  · rintro ⟨token, utility, cut, stateless | ⟨⟨variant, named⟩, unknown⟩⟩
    · simp only [cut, stateless]
    · simp only [cut, named, unknown]

end Fate

instance (utility? : Text → Option Text) (className : Text) :
    Decidable (ClassName.AsksInVain utility? className) :=
  decidable_of_iff _ Fate.ofClass_eq_skipped_iff

/-! ## The fate within a class list -/

/-- **A class of a list has the fate that it has alone**, whatever other classes
are registered with it. -/
theorem Fate.of_register {classes : List Text} {className : Text} (member : className ∈ classes)
    (utilities : Utilities) :
    Fate.of (Registry.empty.register classes) utilities className =
      Fate.ofClass utilities.get? className := by
  unfold Fate.of Fate.ofClass
  cases cut : ClassName.split? className with
  | none => rfl
  | some parts =>
      obtain ⟨token, utility⟩ := parts
      have leads : ClassName.leading? className = some token := by
        rw [ClassName.leading?, cut]
        rfl
      simp only [Registry.selector?_register member leads, ClassName.lacksState, leads,
        Variant.lacksState]
      cases named : Variant.read token with
      | ok variant =>
          rw [Variant.read?_eq_some_iff.mpr named]
          rfl
      | error fault =>
          rw [Variant.read?_of_error named]
          cases fault <;> rfl

/-- A class that depends on no variant has no rule, and is skipped exactly when
it leads with a variant name that lacks a state. -/
theorem Fate.ofClass_of_variant?_eq_none {utility? : Text → Option Text} {className : Text}
    (foreign : ClassName.variant? className = none) :
    Fate.ofClass utility? className =
      if ClassName.lacksState className then skipped else ignored := by
  unfold Fate.ofClass ClassName.lacksState
  unfold ClassName.variant? ClassName.leading? at *
  cases cut : ClassName.split? className with
  | none => rfl
  | some parts =>
      obtain ⟨token, utility⟩ := parts
      rw [cut, Option.map_some, Option.bind_some] at foreign
      simp only [Option.map_some]
      cases named : Variant.read token with
      | ok variant =>
          rw [Variant.read?_eq_some_iff.mpr named] at foreign
          cases foreign
      | error fault => cases fault <;> simp [Variant.lacksState, named]

namespace Stylesheet

variable (utilities : Utilities) (classes : List Text)

theorem mem_granted_iff (entry : Text × Rule) :
    entry ∈ (classes.map fun className =>
        (className, Fate.of (Registry.empty.register classes) utilities className)).filterMap
          (fun entry => entry.2.rule?.map (entry.1, ·)) ↔
      entry.1 ∈ classes ∧ (Fate.ofClass utilities.get? entry.1).rule? = some entry.2 := by
  simp only [List.mem_filterMap, List.mem_map, Option.map_eq_some_iff]
  constructor
  · rintro ⟨_, ⟨className, member, rfl⟩, rule, ruled, rfl⟩
    exact ⟨member, by rw [← Fate.of_register member]; exact ruled⟩
  · rintro ⟨member, ruled⟩
    exact ⟨_, ⟨entry.1, member, rfl⟩, entry.2, by rw [Fate.of_register member]; exact ruled, rfl⟩

/-- **The rule found for a class of a list is its own.** -/
theorem get?_ofClasses (className : Text) :
    (ofClasses utilities classes).rules.get? className =
      if className ∈ classes then (Fate.ofClass utilities.get? className).rule? else none := by
  unfold ofClasses
  simp only
  split
  · rename_i bare
    split
    · rename_i member
      have foreign := Registry.isEmpty_register_iff.mp bare className member
      rw [Fate.ofClass_of_variant?_eq_none foreign]
      cases ClassName.lacksState className <;> rfl
    · rfl
  · have held := mem_granted_iff utilities classes
    rw [SortedTable.get?_ofEntries_of_agree
      (fun other => (Fate.ofClass utilities.get? other).rule?)
      fun entry member => ((held entry).mp member).2]
    by_cases listed : className ∈ classes
    · rw [if_pos listed]
      cases ruled : (Fate.ofClass utilities.get? className).rule? with
      | none => rw [ite_self]
      | some rule =>
          have written := (held (className, rule)).mpr ⟨listed, ruled⟩
          rw [if_pos (List.mem_map.mpr ⟨_, written, rfl⟩)]
    · rw [if_neg listed, if_neg]
      intro member
      obtain ⟨entry, written, rfl⟩ := List.mem_map.mp member
      exact listed ((held entry).mp written).1

/-- **The classes skipped are those that are skipped alone**, each as often as it
stands in the list. -/
theorem skipped_ofClasses :
    (ofClasses utilities classes).skipped =
      classes.countP fun className => Fate.ofClass utilities.get? className = .skipped := by
  unfold ofClasses
  simp only
  split
  · rename_i bare
    refine List.countP_congr fun className member => ?_
    have foreign := Registry.isEmpty_register_iff.mp bare className member
    rw [Fate.ofClass_of_variant?_eq_none foreign]
    cases ClassName.lacksState className <;> simp
  · rw [List.countP_map]
    refine List.countP_congr fun className member => ?_
    simp only [Function.comp_apply, Fate.of_register member]

end Stylesheet

end StateSheet
