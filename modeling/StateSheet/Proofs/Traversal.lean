import Mathlib.Data.List.Forall2

/-!
# Lists read member by member

A list is read by reading its members in order, and the first fault is that of
the whole (`mapM_eq_error_of_first`). It is read into a list exactly when each
member is read into the member at its place (`mapM_eq_ok_iff`). So a list can be
read exactly when each of its members can (`exists_mapM_eq_ok_iff`), and what is
read is what some member is read into (`mem_of_mapM_eq_ok`).
-/

set_option autoImplicit false

namespace StateSheet

variable {ε α β : Type}

/-! ## Lists related member by member -/

/-- A list is related to some list exactly when each of its members is related to
something. -/
theorem exists_forall₂_iff {relation : α → β → Prop} {list : List α} :
    (∃ results, List.Forall₂ relation list results) ↔ ∀ a ∈ list, ∃ b, relation a b := by
  induction list with
  | nil => simp
  | cons a rest ih =>
      rw [List.forall_mem_cons, ← ih]
      constructor
      · rintro ⟨_, paired⟩
        obtain ⟨b, results, first, others, _⟩ := List.forall₂_cons_left_iff.mp paired
        exact ⟨⟨b, first⟩, results, others⟩
      · rintro ⟨⟨b, first⟩, results, others⟩
        exact ⟨b :: results, .cons first others⟩

/-- The members of a related list are what the members are related to, if that is
at most one thing each. -/
theorem mem_iff_of_forall₂ {relation : α → β → Prop} {list : List α} {results : List β}
    (unique : ∀ {a b c}, relation a b → relation a c → b = c)
    (paired : List.Forall₂ relation list results) {b : β} :
    b ∈ results ↔ ∃ a ∈ list, relation a b := by
  induction paired with
  | nil => simp
  | @cons a c _ _ first _ ih =>
      have only : relation a b ↔ b = c :=
        ⟨fun related => unique related first, fun same => same ▸ first⟩
      simp only [List.mem_cons, ih, or_and_right, exists_or, exists_eq_left, only]

/-! ## Reading -/

theorem eq_ok_of_toOption {outcome : Except ε α} {a : α} (read : outcome.toOption = some a) :
    outcome = .ok a := by
  cases outcome with
  | error fault => cases read
  | ok b => exact congrArg Except.ok (Option.some.inj read)

theorem map_eq_ok_iff {outcome : Except ε α} {f : α → β} {b : β} :
    outcome.map f = .ok b ↔ ∃ a, outcome = .ok a ∧ b = f a := by
  cases outcome <;> simp [Except.map, eq_comm]

/-- **A list is read when each of its members is.** -/
theorem mapM_eq_ok_iff {read : α → Except ε β} {list : List α} {results : List β} :
    list.mapM read = .ok results ↔ List.Forall₂ (fun a b => read a = .ok b) list results := by
  induction list generalizing results with
  | nil =>
      rw [List.mapM_nil, List.forall₂_nil_left_iff]
      exact ⟨fun same => (Except.ok.inj same).symm, fun same => by rw [same]; rfl⟩
  | cons a rest ih =>
      rw [List.mapM_cons, List.forall₂_cons_left_iff]
      cases first : read a with
      | error fault =>
          constructor
          · intro read
            cases read
          · rintro ⟨_, _, read, _⟩
            cases read
      | ok b =>
          cases others : rest.mapM read with
          | error fault =>
              constructor
              · intro whole
                cases whole
              · rintro ⟨_, more, _, restRead, rfl⟩
                rw [← ih, others] at restRead
                cases restRead
          | ok more =>
              constructor
              · intro whole
                cases whole
                exact ⟨b, more, rfl, ih.mp others, rfl⟩
              · rintro ⟨c, more', ⟨⟩, restRead, rfl⟩
                rw [← ih, others, Except.ok.injEq] at restRead
                rw [restRead]
                rfl

/-- A list can be read exactly when each of its members can. -/
theorem exists_mapM_eq_ok_iff {read : α → Except ε β} {list : List α} :
    (∃ results, list.mapM read = .ok results) ↔ ∀ a ∈ list, ∃ b, read a = .ok b := by
  simp only [mapM_eq_ok_iff, exists_forall₂_iff]

/-- The first member that cannot be read is the fault of the whole. -/
theorem mapM_eq_error_of_first {read : α → Except ε β} {before : List α}
    (readable : ∀ a ∈ before, ∃ b, read a = .ok b) {a : α} {fault : ε}
    (failed : read a = .error fault) (after : List α) :
    (before ++ a :: after).mapM read = .error fault := by
  obtain ⟨results, earlier⟩ := exists_mapM_eq_ok_iff.mpr readable
  rw [List.mapM_append, earlier, List.mapM_cons, failed]
  rfl

/-- What is read is what some member is read into. -/
theorem mem_of_mapM_eq_ok {read : α → Except ε β} {list : List α} {results : List β}
    (whole : list.mapM read = .ok results) {b : β} :
    b ∈ results ↔ ∃ a ∈ list, read a = .ok b :=
  mem_iff_of_forall₂ (fun first second => Except.ok.inj (first.symm.trans second))
    (mapM_eq_ok_iff.mp whole)

end StateSheet
