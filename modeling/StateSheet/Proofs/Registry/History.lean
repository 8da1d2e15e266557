import Mathlib.Data.List.Induction
import StateSheet.Proofs.Registry
import StateSheet.Proofs.Text.ByteOrder
import StateSheet.Proofs.Variant.Grammar

/-!
# Histories of a registry

A registry comes about in steps: a variant is added under a name, or the variants of a
class list are registered. What a step adds is told by the step alone
(`Step.additions`), and after the step the registry holds that and otherwise what it
held before (`get?_perform_iff`).

So after any steps a registry holds under each name what the latest step to add the
name has added (`get?_ofSteps_iff`), and nothing under all other names
(`get?_ofSteps_eq_none_iff`). It does not matter whether that step was an addition or
the registration of a class list. In particular a class whose variant has just been
registered is given the selector that it has alone, whatever stood under the name
before (`selector?_perform_register`).

The headline puts this together for what can be asked of a registry
(`latest_addition_wins`).
-/

set_option autoImplicit false

namespace StateSheet.Registry

/-! ## Steps -/

/-- Something that is done to a registry. -/
inductive Step where
  /-- A variant is added under a name. -/
  | add (name : Text) (variant : Variant)
  /-- The variants that a class list calls for are registered. -/
  | register (classes : List Text)
deriving DecidableEq, Repr

/-- The registry after one more step. -/
def perform (registry : Registry) : Step → Registry
  | .add name variant => registry.add name variant
  | .register classes => registry.register classes

/-- The registry after some steps. -/
def ofSteps (steps : List Step) : Registry := steps.foldl perform empty

namespace Step

/-- The variants that a step adds, each with the name that it is added under. -/
def additions : Step → List (Text × Variant)
  | add name variant => [(name, variant)]
  | register classes => (Registration.ofClasses classes).variants

/-- The names that a step adds a variant under. -/
def names (step : Step) : List Text := step.additions.map (·.1)

theorem mem_names_of_mem_additions {step : Step} {name : Text} {variant : Variant}
    (added : (name, variant) ∈ step.additions) : name ∈ step.names :=
  List.mem_map_of_mem added

theorem exists_addition_of_mem_names {step : Step} {name : Text} (added : name ∈ step.names) :
    ∃ variant, (name, variant) ∈ step.additions := by
  obtain ⟨⟨_, variant⟩, member, rfl⟩ := List.mem_map.mp added
  exact ⟨variant, member⟩

/-- **Registering a class list adds the names of variants that its classes lead with**,
each with the variant that it is read as. -/
theorem mem_additions_register_iff {classes : List Text} {name : Text} {variant : Variant} :
    (name, variant) ∈ (register classes).additions ↔
      (∃ className ∈ classes, ClassName.leading? className = some name) ∧
        Variant.read name = .ok variant := by
  rw [additions, ← Variant.read?_eq_some_iff]
  constructor
  · intro added
    have named : name ∈ (Registration.ofClasses classes).names := List.mem_map_of_mem added
    exact ⟨(Registration.mem_names_ofClasses_iff.mp named).1,
      Registration.read?_of_mem_variants added⟩
  · rintro ⟨leads, readable⟩
    have named : name ∈ (Registration.ofClasses classes).names :=
      Registration.mem_names_ofClasses_iff.mpr ⟨leads, by rw [readable]; rfl⟩
    obtain ⟨⟨_, other⟩, added, rfl⟩ := List.mem_map.mp named
    cases readable.symm.trans (Registration.read?_of_mem_variants added)
    exact added

end Step

/-! ## What one step does -/

/-- **After a step a registry holds what the step adds**, and what it held before under
all other names. -/
theorem get?_perform_iff (registry : Registry) (step : Step) (name : Text) (variant : Variant) :
    (registry.perform step).variants.get? name = some variant ↔
      (name, variant) ∈ step.additions ∨
        name ∉ step.names ∧ registry.variants.get? name = some variant := by
  cases step with
  | add added new =>
      rw [perform, add, SortedTable.get?_insert]
      by_cases same : name = added
      · simp [Step.additions, Step.names, same, eq_comm]
      · simp [Step.additions, Step.names, same]
  | register classes =>
      have unchanged : (Registration.ofClasses classes).names = (Step.register classes).names := rfl
      rw [perform, get?_register, unchanged]
      by_cases added : name ∈ (Step.register classes).names
      · have leads := (Registration.mem_names_ofClasses_iff.mp added).1
        rw [if_pos added, Variant.read?_eq_some_iff, Step.mem_additions_register_iff]
        simp only [leads, added, true_and, not_true_eq_false, false_and, or_false]
      · have notAdded : (name, variant) ∉ (Step.register classes).additions :=
          fun member => added (Step.mem_names_of_mem_additions member)
        rw [if_neg added]
        simp only [notAdded, added, false_or, not_false_eq_true, true_and]

/-- A step leaves what it does not add as it was. -/
theorem get?_perform_of_not_mem (registry : Registry) {step : Step} {name : Text}
    (untouched : name ∉ step.names) :
    (registry.perform step).variants.get? name = registry.variants.get? name := by
  refine Option.ext fun variant => ?_
  rw [get?_perform_iff]
  constructor
  · rintro (added | ⟨_, held⟩)
    · exact absurd (Step.mem_names_of_mem_additions added) untouched
    · exact held
  · exact fun held => Or.inr ⟨untouched, held⟩

/-- Nothing stands under a name after a step exactly when the step does not add it and
nothing stood there before. -/
theorem get?_perform_eq_none_iff (registry : Registry) (step : Step) (name : Text) :
    (registry.perform step).variants.get? name = none ↔
      name ∉ step.names ∧ registry.variants.get? name = none := by
  constructor
  · intro missing
    have untouched : name ∉ step.names := by
      intro added
      obtain ⟨variant, member⟩ := Step.exists_addition_of_mem_names added
      have held := (get?_perform_iff registry step name variant).mpr (Or.inl member)
      rw [missing] at held
      cases held
    exact ⟨untouched, by rw [← get?_perform_of_not_mem registry untouched, missing]⟩
  · rintro ⟨untouched, missing⟩
    rw [get?_perform_of_not_mem registry untouched, missing]

/-! ## What many steps do -/

/-- Is this the variant that the latest step to add a name adds under it? -/
def IsLatest (steps : List Step) (name : Text) (variant : Variant) : Prop :=
  ∃ earlier step later, steps = earlier ++ step :: later ∧ (name, variant) ∈ step.additions ∧
    ∀ other ∈ later, name ∉ other.names

theorem ofSteps_concat (steps : List Step) (step : Step) :
    ofSteps (steps ++ [step]) = (ofSteps steps).perform step :=
  List.foldl_concat ..

/-- The latest addition is that of the last step, or the latest one before if the last
step does not add the name. -/
theorem isLatest_concat_iff {steps : List Step} {step : Step} {name : Text} {variant : Variant} :
    IsLatest (steps ++ [step]) name variant ↔
      (name, variant) ∈ step.additions ∨ name ∉ step.names ∧ IsLatest steps name variant := by
  constructor
  · rintro ⟨earlier, adding, later, split, added, untouched⟩
    rcases List.eq_nil_or_concat later with rfl | ⟨before, last, rfl⟩
    · obtain ⟨_, same⟩ := List.append_inj' split rfl
      cases same
      exact Or.inl added
    · rw [List.concat_eq_append] at untouched
      rw [List.concat_eq_append, ← List.cons_append, ← List.append_assoc] at split
      obtain ⟨rfl, same⟩ := List.append_inj' split rfl
      cases same
      refine Or.inr ⟨untouched step (by simp), earlier, adding, before, rfl, added, ?_⟩
      exact fun other member => untouched other (List.mem_append_left _ member)
  · rintro (added | ⟨untouched, earlier, adding, later, rfl, added, laterUntouched⟩)
    · exact ⟨steps, step, [], rfl, added, by simp⟩
    · refine ⟨earlier, adding, later ++ [step], by simp, added, fun other member => ?_⟩
      rcases List.mem_append.mp member with before | last
      · exact laterUntouched other before
      · rwa [List.mem_singleton.mp last]

/-- **After some steps a registry holds the latest additions.** -/
theorem get?_ofSteps_iff (steps : List Step) (name : Text) (variant : Variant) :
    (ofSteps steps).variants.get? name = some variant ↔ IsLatest steps name variant := by
  induction steps using List.reverseRecOn with
  | nil =>
      constructor
      · intro held
        cases held
      · rintro ⟨earlier, step, later, split, _⟩
        simp at split
  | append_singleton steps step ih =>
      rw [ofSteps_concat, get?_perform_iff, ih, isLatest_concat_iff]

/-- Nothing stands under a name that no step adds. -/
theorem get?_ofSteps_eq_none_iff (steps : List Step) (name : Text) :
    (ofSteps steps).variants.get? name = none ↔ ∀ step ∈ steps, name ∉ step.names := by
  induction steps using List.reverseRecOn with
  | nil => simp [ofSteps, empty]
  | append_singleton steps step ih =>
      rw [ofSteps_concat, get?_perform_eq_none_iff, ih, List.forall_mem_append,
        List.forall_mem_singleton, and_comm]

/-! ## What can be asked of a registry -/

theorem selector?_eq_some_iff {registry : Registry} {name className selector : Text} :
    registry.selector? name className = some selector ↔
      ∃ variant, registry.variants.get? name = some variant ∧
        selector = Selector.build variant className := by
  rw [selector?, Option.map_eq_some_iff]
  simp only [eq_comm]

theorem selector?_eq_none_iff {registry : Registry} {name className : Text} :
    registry.selector? name className = none ↔ registry.variants.get? name = none := by
  rw [selector?, Option.map_eq_none_iff]

/-- A name is one of a registry exactly when a variant stands under it. -/
theorem mem_names_iff {registry : Registry} {name : Text} :
    name ∈ registry.names ↔ registry.variants.get? name ≠ none := by
  rw [names, SortedTable.mem_keys_iff, SortedTable.contains, ← Option.ne_none_iff_isSome]

theorem isEmpty_iff {registry : Registry} : registry.isEmpty = true ↔ registry.names = [] := by
  rw [isEmpty, SortedTable.isEmpty, List.isEmpty_iff, names, SortedTable.keys, List.map_eq_nil_iff]

/-- **A class whose variant has just been registered has the selector that it has
alone**, also if a class list without the class called for the variant, and whatever
stood under the name before. -/
theorem selector?_perform_register (registry : Registry) {classes : List Text}
    {className token : Text} {variant : Variant}
    (leads : ClassName.leading? className = some token)
    (added : (token, variant) ∈ (Step.register classes).additions) :
    (registry.perform (.register classes)).selector? token className =
      Selector.ofClass? className := by
  have named := (Step.mem_additions_register_iff.mp added).2
  have held := (get?_perform_iff registry _ token variant).mpr (Or.inl added)
  rw [selector?, held, Selector.ofClass?, ClassName.variant?, leads, Option.bind_some,
    Variant.read?_eq_some_iff.mpr named]

/-- Does a registry answer as the latest additions of some steps have it? -/
structure Answers (registry : Registry) (steps : List Step) : Prop where
  /-- A class is given the selector of the latest variant under a name. -/
  selector? : ∀ name className selector, registry.selector? name className = some selector ↔
    ∃ variant, IsLatest steps name variant ∧ selector = Selector.build variant className
  /-- It is given none exactly if no step has added the name. -/
  missing : ∀ name className, registry.selector? name className = none ↔
    ∀ step ∈ steps, name ∉ step.names
  /-- The names are told in strictly ascending order. -/
  ascending : registry.names.Pairwise fun earlier later => earlier.bytes < later.bytes
  mem_names : ∀ name, name ∈ registry.names ↔ ∃ step ∈ steps, name ∈ step.names
  contains : ∀ name, registry.contains name = true ↔ name ∈ registry.names
  size : registry.size = registry.names.length
  isEmpty : registry.isEmpty = true ↔ registry.names = []

theorem answers_ofSteps (steps : List Step) : (ofSteps steps).Answers steps where
  selector? name className selector := by
    simp only [selector?_eq_some_iff, get?_ofSteps_iff]
  missing name className := by
    rw [selector?_eq_none_iff, get?_ofSteps_eq_none_iff]
  ascending := (ofSteps steps).variants.keys_ascending.imp Text.bytes_lt_bytes
  mem_names name := by
    rw [mem_names_iff, ne_eq, get?_ofSteps_eq_none_iff]
    simp only [not_forall, Classical.not_not, exists_prop]
  contains name := SortedTable.mem_keys_iff.symm
  size := (List.length_map ..).symm
  isEmpty := isEmpty_iff

/-- **The latest addition wins, over whole histories.** After any steps a registry
answers as the latest additions have it. One more class list adds exactly the variants
that its classes lead with, leaves everything else as it was, and gives every class
that leads with one of them the selector that the class has alone. -/
theorem latest_addition_wins (steps : List Step) :
    (ofSteps steps).Answers steps ∧
      ∀ classes : List Text,
        (∀ name variant, (name, variant) ∈ (Step.register classes).additions ↔
          (∃ className ∈ classes, ClassName.leading? className = some name) ∧
            Variant.read name = .ok variant) ∧
        (∀ name, name ∉ (Step.register classes).names →
          (ofSteps (steps ++ [.register classes])).variants.get? name =
            (ofSteps steps).variants.get? name) ∧
        ∀ className token, ClassName.leading? className = some token →
          (∃ other ∈ classes, ClassName.leading? other = some token) →
            (∃ variant, Variant.read token = .ok variant) →
              (ofSteps (steps ++ [.register classes])).selector? token className =
                Selector.ofClass? className := by
  refine ⟨answers_ofSteps steps, fun classes => ⟨fun name variant => ?_, ?_, ?_⟩⟩
  · exact Step.mem_additions_register_iff
  · intro name untouched
    rw [ofSteps_concat, get?_perform_of_not_mem _ untouched]
  · rintro className token leads called ⟨variant, named⟩
    have member := Step.mem_additions_register_iff.mpr ⟨called, named⟩
    rw [ofSteps_concat, selector?_perform_register _ leads member]

/-- A name that first stood for another variant, called for by a class list that does not
hold the class asked about. -/
theorem latest_addition_wins_over_other_variant :
    let steps := [Step.add "ui-open".toList (Family.notPeer.variant "shut".toList)]
    let classes := ["flex".toList, "ui-open:block".toList]
    (ofSteps steps).selector? "ui-open".toList "ui-open:grid".toList =
        some ".peer:not([data-state=\"shut\"]) ~ .ui-open\\:grid".toList ∧
      (ofSteps (steps ++ [.register classes])).selector? "ui-open".toList "ui-open:grid".toList =
        some ".ui-open\\:grid[data-state=\"open\"]".toList := by
  intro steps classes
  have leads : ClassName.leading? "ui-open:grid".toList = some "ui-open".toList := by decide
  have called : ∃ other ∈ classes, ClassName.leading? other = some "ui-open".toList := by decide
  have named : Variant.read "ui-open".toList = .ok (Family.state.variant "open".toList) := by
    decide
  have own : Selector.ofClass? "ui-open:grid".toList =
      some ".ui-open\\:grid[data-state=\"open\"]".toList := by decide
  refine ⟨by decide, ?_⟩
  rw [← own]
  exact ((latest_addition_wins steps).2 classes).2.2 _ _ leads called ⟨_, named⟩

end StateSheet.Registry
