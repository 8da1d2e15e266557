import StateSheet.Text.Basic

/-!
# First occurrences

The members of a list whose key has not occurred before them, in their order.
Classes, variant names, scanned paths and watched roots are all made distinct
in this way.

The members kept are members of the list (`mem_of_mem_distinctBy`), no two of
them share a key (`nodup_map_distinctBy`), and every key of the list is kept
(`key_mem_distinctBy_iff`). A list made distinct has the same members
(`mem_distinct_iff`), each once (`nodup_distinct`). A list without repetitions is kept as it is, and
nothing of what repeats its members behind it (`distinct_append_of_subset`).
-/

set_option autoImplicit false

namespace StateSheet

variable {α κ : Type} [DecidableEq κ]

/-- The members of a list whose key is neither among the keys already seen nor
that of an earlier member. -/
def distinctFrom (key : α → κ) (seen : List κ) : List α → List α
  | [] => []
  | member :: rest =>
      if key member ∈ seen then distinctFrom key seen rest
      else member :: distinctFrom key (key member :: seen) rest

/-- The members of a list that are the first with their key. -/
def distinctBy (key : α → κ) (list : List α) : List α := distinctFrom key [] list

/-- The first occurrence of each member of a list. -/
def distinct (list : List κ) : List κ := distinctBy id list

/-- The members kept come from the list, in its order. -/
theorem distinctFrom_sublist (key : α → κ) (seen : List κ) (list : List α) :
    (distinctFrom key seen list).Sublist list := by
  induction list generalizing seen with
  | nil => simp [distinctFrom]
  | cons member rest ih =>
      by_cases old : key member ∈ seen
      · simpa [distinctFrom, old] using (ih seen).cons member
      · simpa [distinctFrom, old] using ih (key member :: seen)

/-- A key is kept exactly when it occurs in the list and was not seen before. -/
theorem key_mem_distinctFrom_iff (key : α → κ) (seen : List κ) (list : List α) (k : κ) :
    k ∈ (distinctFrom key seen list).map key ↔ k ∈ list.map key ∧ k ∉ seen := by
  induction list generalizing seen with
  | nil => simp [distinctFrom]
  | cons member rest ih =>
      by_cases old : key member ∈ seen
      · simp only [distinctFrom, old, if_true, ih, List.map_cons, List.mem_cons]
        constructor
        · exact fun kept => ⟨Or.inr kept.1, kept.2⟩
        · rintro ⟨rfl | later, fresh⟩
          · exact absurd old fresh
          · exact ⟨later, fresh⟩
      · simp only [distinctFrom, old, if_false, List.map_cons, List.mem_cons, ih]
        constructor
        · rintro (rfl | ⟨later, fresh⟩)
          · exact ⟨Or.inl rfl, old⟩
          · exact ⟨Or.inr later, fun known => fresh (Or.inr known)⟩
        · rintro ⟨rfl | later, fresh⟩
          · exact Or.inl rfl
          · by_cases same : k = key member
            · exact Or.inl same
            · exact Or.inr ⟨later, fun known => known.elim same fresh⟩

/-- The keys of the members kept are pairwise different. -/
theorem nodup_map_distinctFrom (key : α → κ) (seen : List κ) (list : List α) :
    ((distinctFrom key seen list).map key).Nodup := by
  induction list generalizing seen with
  | nil => simp [distinctFrom]
  | cons member rest ih =>
      by_cases old : key member ∈ seen
      · simpa [distinctFrom, old] using ih seen
      · simp only [distinctFrom, old, if_false, List.map_cons, List.nodup_cons]
        refine ⟨fun again => ?_, ih _⟩
        exact ((key_mem_distinctFrom_iff key _ rest _).mp again).2 (List.mem_cons_self ..)

/-- A member kept is a member of the list. -/
theorem mem_of_mem_distinctBy {key : α → κ} {list : List α} {member : α}
    (kept : member ∈ distinctBy key list) : member ∈ list :=
  (distinctFrom_sublist key [] list).subset kept

/-- No two members kept share a key. -/
theorem nodup_map_distinctBy (key : α → κ) (list : List α) :
    ((distinctBy key list).map key).Nodup :=
  nodup_map_distinctFrom key [] list

/-- The keys kept are the keys of the list. -/
theorem key_mem_distinctBy_iff (key : α → κ) (list : List α) (k : κ) :
    k ∈ (distinctBy key list).map key ↔ k ∈ list.map key := by
  simpa [distinctBy] using key_mem_distinctFrom_iff key [] list k

/-- The first occurrences are the members of the list. -/
theorem mem_distinct_iff {list : List κ} {member : κ} : member ∈ distinct list ↔ member ∈ list := by
  have kept := key_mem_distinctBy_iff id list member
  rwa [List.map_id, List.map_id] at kept

/-- No member occurs twice among the first occurrences. -/
theorem nodup_distinct (list : List κ) : (distinct list).Nodup := by
  have kept := nodup_map_distinctBy id list
  rwa [List.map_id] at kept

/-- Nothing is kept of a list whose keys have all been seen. -/
theorem distinctFrom_eq_nil {key : α → κ} {seen : List κ} {list : List α}
    (known : ∀ member ∈ list, key member ∈ seen) : distinctFrom key seen list = [] := by
  refine List.eq_nil_iff_forall_not_mem.mpr fun member kept => ?_
  have fresh := (key_mem_distinctFrom_iff key seen list (key member)).mp
    (List.mem_map_of_mem kept)
  exact fresh.2 (known member ((distinctFrom_sublist key seen list).subset kept))

theorem distinctFrom_append_of_nodup {seen first second : List κ} (nodup : first.Nodup)
    (unseen : ∀ member ∈ first, member ∉ seen)
    (known : ∀ member ∈ second, member ∈ seen ∨ member ∈ first) :
    distinctFrom id seen (first ++ second) = first := by
  induction first generalizing seen with
  | nil =>
      simp only [List.not_mem_nil, or_false] at known
      exact distinctFrom_eq_nil known
  | cons member rest ih =>
      obtain ⟨notLater, restNodup⟩ := List.nodup_cons.mp nodup
      have fresh : id member ∉ seen := unseen member List.mem_cons_self
      rw [List.cons_append, distinctFrom, if_neg fresh, ih restNodup]
      · intro other later
        rw [id, List.mem_cons, not_or]
        refine ⟨?_, unseen other (List.mem_cons_of_mem _ later)⟩
        rintro rfl
        exact notLater later
      · intro other behind
        rw [id, List.mem_cons]
        rcases known other behind with old | among
        · exact .inl (.inr old)
        · exact (List.mem_cons.mp among).elim (fun same => .inl (.inl same)) .inr

/-- A list without repetitions is kept, and nothing of what repeats it. -/
theorem distinct_append_of_subset {first second : List κ} (nodup : first.Nodup)
    (known : second ⊆ first) : distinct (first ++ second) = first :=
  distinctFrom_append_of_nodup nodup (fun _ _ seen => by cases seen) fun _ behind =>
    Or.inr (known behind)

end StateSheet
