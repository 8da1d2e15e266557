import StateSheet.Registry
import StateSheet.Proofs.Text.SortedTable

/-!
# What a registry holds

Registering a class list adds the variants that its classes lead with, each
under its own name, and nothing else (`get?_register`). A class of the list
therefore finds in the registry the very variant that its own name is read as
(`selector?_register`), and the registry stays empty exactly when no class of
the list depends on a variant (`isEmpty_register_iff`).
-/

set_option autoImplicit false

namespace StateSheet

theorem token_mem_occurrences_iff {classes : List Text} {token : Text} :
    token ∈ (occurrences classes).map (·.token) ↔
      ∃ className ∈ classes, ClassName.leading? className = some token := by
  rw [occurrences, key_mem_distinctBy_iff]
  simp only [List.mem_map, List.mem_filterMap, Option.map_eq_some_iff]
  constructor
  · rintro ⟨_, ⟨className, member, _, leads, rfl⟩, rfl⟩
    exact ⟨className, member, leads⟩
  · rintro ⟨className, member, leads⟩
    exact ⟨_, ⟨className, member, token, leads, rfl⟩, rfl⟩

namespace Registration

/-- A name is registered exactly when a class leads with it and it is the name
of a variant. -/
theorem mem_names_ofClasses_iff {classes : List Text} {name : Text} :
    name ∈ (ofClasses classes).names ↔
      (∃ className ∈ classes, ClassName.leading? className = some name) ∧
        (Variant.read? name).isSome := by
  rw [← token_mem_occurrences_iff]
  simp only [names, ofClasses, List.mem_map, List.mem_filterMap, Option.map_eq_some_iff]
  constructor
  · rintro ⟨_, ⟨occurrence, member, variant, named, rfl⟩, rfl⟩
    exact ⟨⟨occurrence, member, rfl⟩, by rw [named]; rfl⟩
  · rintro ⟨⟨occurrence, member, rfl⟩, readable⟩
    obtain ⟨variant, named⟩ := Option.isSome_iff_exists.mp readable
    exact ⟨_, ⟨occurrence, member, variant, named, rfl⟩, rfl⟩

/-- Every name is registered with the variant that it is read as. -/
theorem read?_of_mem_variants {classes : List Text} {entry : Text × Variant}
    (member : entry ∈ (ofClasses classes).variants) :
    Variant.read? entry.1 = some entry.2 := by
  simp only [ofClasses, List.mem_filterMap, Option.map_eq_some_iff] at member
  obtain ⟨occurrence, _, variant, named, rfl⟩ := member
  exact named

end Registration

namespace Registry

theorem variants_addTo (registration : Registration) (registry : Registry) :
    (registration.addTo add registry).variants =
      registry.variants.insertAll registration.variants := by
  unfold Registration.addTo SortedTable.insertAll
  induction registration.variants generalizing registry with
  | nil => rfl
  | cons entry rest ih => exact ih (registry.add entry.1 entry.2)

/-- **Registering adds the variants that the classes lead with**, each under the
name that it is read from, in place of what was there. -/
theorem get?_register (registry : Registry) (classes : List Text) (name : Text) :
    (registry.register classes).variants.get? name =
      if name ∈ (Registration.ofClasses classes).names then Variant.read? name
      else registry.variants.get? name := by
  rw [register, variants_addTo,
    SortedTable.get?_insertAll_of_agree Variant.read? fun _ => Registration.read?_of_mem_variants]
  rfl

/-- **A class finds the variant that its own name is read as**, whatever other
classes are registered with it. -/
theorem selector?_register {classes : List Text} {className token : Text}
    (member : className ∈ classes) (leads : ClassName.leading? className = some token) :
    (empty.register classes).selector? token className =
      (Variant.read? token).map fun variant => Selector.build variant className := by
  rw [selector?, get?_register]
  cases named : Variant.read? token with
  | none =>
      have absent : empty.variants.get? token = none := rfl
      rw [absent, ite_self]
  | some variant =>
      have registered : token ∈ (Registration.ofClasses classes).names :=
        Registration.mem_names_ofClasses_iff.mpr
          ⟨⟨className, member, leads⟩, by rw [named]; rfl⟩
      rw [if_pos registered]

/-- Nothing is registered exactly when no class depends on a variant. -/
theorem isEmpty_register_iff {classes : List Text} :
    (empty.register classes).isEmpty = true ↔
      ∀ className ∈ classes, ClassName.variant? className = none := by
  rw [isEmpty, SortedTable.isEmpty_iff]
  simp only [get?_register, Registration.mem_names_ofClasses_iff]
  constructor
  · intro missing className member
    rw [ClassName.variant?]
    cases leads : ClassName.leading? className with
    | none => rfl
    | some token =>
        cases named : Variant.read? token with
        | none => exact named
        | some variant =>
            have absent := missing token
            rw [if_pos ⟨⟨className, member, leads⟩, by rw [named]; rfl⟩, named] at absent
            cases absent
  · intro foreign name
    split
    · rename_i registered
      obtain ⟨⟨className, member, leads⟩, _⟩ := registered
      have unread := foreign className member
      rwa [ClassName.variant?, leads] at unread
    · rfl

end Registry

end StateSheet
