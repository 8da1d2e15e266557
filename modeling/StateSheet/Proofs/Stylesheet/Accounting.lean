import StateSheet.Proofs.Stylesheet.Generation

/-!
# Accounting for classes

A class that depends on a variant has one of three fates: it has a rule, it is skipped
since its utility is unknown, or it is dropped without a count since its utility declares
nothing (`Fate.ofClass_of_variant?`). Classes that lack a state are skipped as well, and
depend on no variant.

So what a stylesheet counts adds up to the classes that depend on a variant
(`Stylesheet.counts_add_up`). A list of fewer classes has no rule that the whole list has not
(`Stylesheet.rules_sublist`), and no more of them are skipped (`Stylesheet.skipped_le`).
-/

set_option autoImplicit false

namespace StateSheet

/-- Is the utility of a class known, and declares nothing? -/
def ClassName.declaresNothing (utility? : Text → Option Text) (className : Text) : Bool :=
  match ClassName.split? className with
  | none => false
  | some (_, utility) =>
      (utility? utility).any fun declared => (Declaration.readAll declared).isEmpty

theorem ClassName.variant?_eq_some_iff {className : Text} {variant : Variant} :
    variant? className = some variant ↔
      ∃ token utility, split? className = some (token, utility) ∧
        Variant.read token = .ok variant := by
  simp only [variant?, leading?, Option.bind_eq_some_iff, Option.map_eq_some_iff,
    Variant.read?_eq_some_iff]
  constructor
  · rintro ⟨_, ⟨⟨token, utility⟩, cut, rfl⟩, named⟩
    exact ⟨token, utility, cut, named⟩
  · rintro ⟨token, utility, cut, named⟩
    exact ⟨token, ⟨_, cut, rfl⟩, named⟩

/-- A class that depends on a variant lacks no state. -/
theorem ClassName.lacksState_of_variant? {className : Text} {variant : Variant}
    (depends : variant? className = some variant) : lacksState className = false := by
  obtain ⟨token, utility, cut, named⟩ := variant?_eq_some_iff.mp depends
  simp [lacksState, leading?, cut, Variant.lacksState, named]

namespace Fate

@[simp] theorem rule?_ignored : ignored.rule? = none := rfl

@[simp] theorem rule?_skipped : skipped.rule? = none := rfl

@[simp] theorem rule?_ruled (rule : Rule) : (ruled rule).rule? = some rule := rfl

variable {utility? : Text → Option Text} {className : Text}

/-- **A class that depends on a variant has one of three fates**: a rule, to be skipped,
or to be dropped since its utility declares nothing. -/
theorem ofClass_of_variant? {variant : Variant}
    (depends : ClassName.variant? className = some variant) :
    (∃ rule, ofClass utility? className = ruled rule) ∧
        ClassName.declaresNothing utility? className = false ∨
      ofClass utility? className = skipped ∧
        ClassName.declaresNothing utility? className = false ∨
      ofClass utility? className = ignored ∧
        ClassName.declaresNothing utility? className = true := by
  obtain ⟨token, utility, cut, named⟩ := ClassName.variant?_eq_some_iff.mp depends
  simp only [ofClass, ClassName.declaresNothing, cut, named]
  cases utility? utility with
  | none => exact Or.inr (Or.inl ⟨rfl, rfl⟩)
  | some declared =>
      simp only [Option.any_some]
      cases Declaration.readAll declared with
      | nil => exact Or.inr (Or.inr ⟨rfl, rfl⟩)
      | cons first more => exact Or.inl ⟨⟨_, rfl⟩, rfl⟩

/-- A class that lacks a state is skipped. -/
theorem ofClass_of_lacksState (stateless : ClassName.lacksState className = true) :
    ofClass utility? className = skipped := by
  cases depends : ClassName.variant? className with
  | none => rw [ofClass_of_variant?_eq_none depends, if_pos stateless]
  | some variant =>
      rw [ClassName.lacksState_of_variant? depends] at stateless
      cases stateless

end Fate

namespace Stylesheet

variable (utilities : Utilities) {classes : List Text}

/-- A stylesheet has as many rules as different classes have one. -/
theorem ruleCount_ofClasses (different : classes.Nodup) :
    (ofClasses utilities classes).ruleCount =
      classes.countP fun className => (Fate.ofClass utilities.get? className).rule?.isSome := by
  have keys : (ofClasses utilities classes).rules.keys.Perm
      (classes.filter fun className =>
        (Fate.ofClass utilities.get? className).rule?.isSome) := by
    refine SortedTable.keys_perm_filter different fun className => ?_
    rw [SortedTable.contains, get?_ofClasses]
    by_cases listed : className ∈ classes <;> simp [listed]
  rw [List.countP_eq_length_filter, ← keys.length_eq, SortedTable.keys, List.length_map]
  rfl

/-- **What a stylesheet counts adds up.** The classes that depend on a variant and those
that lack a state are the classes that have a rule, those that are skipped, and those
that depend on a variant and whose utility declares nothing. -/
theorem counts_add_up (different : classes.Nodup) :
    classes.countP (fun className => (ClassName.variant? className).isSome) +
        classes.countP ClassName.lacksState =
      (ofClasses utilities classes).ruleCount + (ofClasses utilities classes).skipped +
        classes.countP fun className => ClassName.declaresNothing utilities.get? className &&
          (ClassName.variant? className).isSome := by
  rw [ruleCount_ofClasses utilities different, skipped_ofClasses]
  clear different
  induction classes with
  | nil => rfl
  | cons className rest ih =>
      simp only [List.countP_cons]
      cases depends : ClassName.variant? className with
      | none =>
          rw [Fate.ofClass_of_variant?_eq_none depends]
          cases ClassName.lacksState className <;> simp <;> omega
      | some variant =>
          rw [ClassName.lacksState_of_variant? depends]
          rcases @Fate.ofClass_of_variant? utilities.get? className variant depends with
            ⟨⟨rule, fate⟩, declares⟩ | ⟨fate, declares⟩ | ⟨fate, declares⟩
          all_goals
            simp [fate, declares]
            omega

/-- **Fewer classes have fewer rules**, in the same order. -/
theorem rules_sublist {fewer : List Text} (among : fewer ⊆ classes) :
    (ofClasses utilities fewer).rules.entries.Sublist
      (ofClasses utilities classes).rules.entries := by
  refine SortedTable.entries_sublist fun entry member => ?_
  obtain ⟨listed, isOf⟩ := mem_rules_iff.mp member
  exact mem_rules_iff.mpr ⟨among listed, isOf⟩

/-- Of fewer classes, each listed once, no more are skipped. -/
theorem skipped_le {fewer : List Text} (once : fewer.Nodup) (among : fewer ⊆ classes) :
    (ofClasses utilities fewer).skipped ≤ (ofClasses utilities classes).skipped := by
  rw [skipped_ofClasses, skipped_ofClasses]
  exact (List.subperm_of_subset once among).countP_le _

/-- The classes that lack a state are among those skipped. -/
theorem countP_lacksState_le (classes : List Text) :
    classes.countP ClassName.lacksState ≤ (ofClasses utilities classes).skipped := by
  rw [skipped_ofClasses]
  exact List.countP_mono_left fun className _ stateless =>
    decide_eq_true (Fate.ofClass_of_lacksState stateless)

end Stylesheet

end StateSheet
