import StateSheet.Text.Distinct
import Mathlib.Data.List.Basic

/-!
# The order of first occurrences

The first occurrences of a list are told without a pass over it: they are its members,
each once, and one stands in front of another when it is met first in the list
(`FirstsOf`). Dropping all but some of them leaves the first occurrences of those
(`firstsOf_filter_distinct`).

Members that are made distinct by a key have the first occurrences of the keys
(`map_distinctBy`, `firstsOf_distinctBy`), and each of them is the first in the list with its
key (`find?_of_mem_distinctBy`). If the keys are pairwise different, all members are kept
(`distinctBy_eq_self`), and if they are all the same, the first is
(`distinctBy_cons_of_common`).
-/

set_option autoImplicit false

namespace StateSheet

variable {α κ : Type} [DecidableEq κ]

/-- The members of a list that are of a kind, each once, in the order in which they are
first met. -/
structure FirstsOf (list : List κ) (ofKind : κ → Prop) (firsts : List κ) : Prop where
  members : ∀ member, member ∈ firsts ↔ member ∈ list ∧ ofKind member
  once : firsts.Nodup
  inOrder : firsts.Pairwise fun earlier later => list.idxOf earlier < list.idxOf later

theorem FirstsOf.congr {list firsts : List κ} {ofKind ofOther : κ → Prop}
    (found : FirstsOf list ofKind firsts) (same : ∀ member, ofKind member ↔ ofOther member) :
    FirstsOf list ofOther firsts :=
  ⟨fun member => by rw [found.members, same], found.once, found.inOrder⟩

theorem pairwise_distinctFrom (seen list : List κ) :
    (distinctFrom id seen list).Pairwise fun earlier later =>
      list.idxOf earlier < list.idxOf later := by
  induction list generalizing seen with
  | nil => exact .nil
  | cons member rest ih =>
      -- Behind the first member every place is one further than in the rest.
      have further : ∀ known : List κ, member ∈ known →
          (distinctFrom id known rest).Pairwise fun earlier later =>
            (member :: rest).idxOf earlier < (member :: rest).idxOf later := by
        intro known among
        refine (ih known).imp_of_mem fun {earlier later} earlierKept laterKept before => ?_
        have different : ∀ {other}, other ∈ distinctFrom id known rest → member ≠ other := by
          rintro other kept rfl
          have fresh := (key_mem_distinctFrom_iff id known rest member).mp (by simpa using kept)
          exact fresh.2 among
        rw [List.idxOf_cons_ne _ (different earlierKept),
          List.idxOf_cons_ne _ (different laterKept)]
        exact Nat.succ_lt_succ before
      rw [distinctFrom]
      split
      · next old => exact further seen old
      · refine List.pairwise_cons.mpr ⟨fun later kept => ?_, further _ List.mem_cons_self⟩
        have fresh := (key_mem_distinctFrom_iff id _ rest later).mp (by simpa using kept)
        have different : member ≠ later := fun same => fresh.2 (same ▸ List.mem_cons_self)
        rw [List.idxOf_cons_self, List.idxOf_cons_ne _ different]
        exact Nat.succ_pos _

/-- **The first occurrences of a kind are what a filter leaves of all.** -/
theorem firstsOf_filter_distinct (list : List κ) (ofKind : κ → Bool) :
    FirstsOf list (fun member => ofKind member = true) ((distinct list).filter ofKind) where
  members member := by rw [List.mem_filter, mem_distinct_iff]
  once := (nodup_distinct list).filter ofKind
  inOrder := (pairwise_distinctFrom [] list).filter ofKind

theorem distinctFrom_concat (seen list : List κ) (last : κ) :
    distinctFrom id seen (list ++ [last]) =
      if last ∈ seen ∨ last ∈ list then distinctFrom id seen list
      else distinctFrom id seen list ++ [last] := by
  induction list generalizing seen with
  | nil => simp [distinctFrom]
  | cons member rest ih =>
      simp only [List.cons_append, distinctFrom, id_eq, ih]
      by_cases old : member ∈ seen
      · have known : last ∈ seen ∨ last ∈ member :: rest ↔ last ∈ seen ∨ last ∈ rest := by
          rw [List.mem_cons, or_left_comm, or_iff_right_of_imp]
          rintro rfl
          exact Or.inl old
        simp only [if_pos old, known]
      · have known : last ∈ member :: seen ∨ last ∈ rest ↔ last ∈ seen ∨ last ∈ member :: rest := by
          rw [List.mem_cons, List.mem_cons, or_assoc, or_left_comm]
        simp only [if_neg old, known]
        split
        · rfl
        · rw [List.cons_append]

/-- A member behind a list is a first occurrence unless the list holds it. -/
theorem distinct_concat (list : List κ) (last : κ) :
    distinct (list ++ [last]) =
      if last ∈ list then distinct list else distinct list ++ [last] := by
  rw [distinct, distinctBy, distinctFrom_concat]
  simp [distinct, distinctBy]

theorem map_distinctFrom (key : α → κ) (seen : List κ) (list : List α) :
    (distinctFrom key seen list).map key = distinctFrom id seen (list.map key) := by
  induction list generalizing seen with
  | nil => rfl
  | cons member rest ih =>
      simp only [distinctFrom, List.map_cons, id_eq]
      by_cases old : key member ∈ seen
      · rw [if_pos old, if_pos old, ih]
      · rw [if_neg old, if_neg old, List.map_cons, ih]

/-- The keys of the members kept are the first occurrences of the keys. -/
theorem map_distinctBy (key : α → κ) (list : List α) :
    (distinctBy key list).map key = distinct (list.map key) :=
  map_distinctFrom key [] list

/-- **The keys of the members kept are met first in their order.** -/
theorem firstsOf_distinctBy (key : α → κ) (list : List α) :
    FirstsOf (list.map key) (fun _ => True) ((distinctBy key list).map key) := by
  have firsts := firstsOf_filter_distinct (list.map key) fun _ => true
  rw [List.filter_true, ← map_distinctBy] at firsts
  exact firsts.congr fun _ => eq_self_iff_true true

/-- A list whose keys are pairwise different is kept. -/
theorem distinctBy_eq_self {key : α → κ} {list : List α} (different : (list.map key).Nodup) :
    distinctBy key list = list := by
  have keys : (distinctBy key list).map key = list.map key := by
    have kept := distinct_append_of_subset different (List.nil_subset _)
    rwa [List.append_nil, ← map_distinctBy] at kept
  have sameLength : (distinctBy key list).length = list.length := by
    rw [← List.length_map key, keys, List.length_map]
  exact (distinctFrom_sublist key [] list).eq_of_length sameLength

/-- Of members that share one key the first is kept. -/
theorem distinctBy_cons_of_common {key : α → κ} {first : α} {others : List α}
    (common : ∀ other ∈ others, key other = key first) :
    distinctBy key (first :: others) = [first] := by
  have known : ∀ other ∈ others, key other ∈ [key first] := fun other member =>
    List.mem_singleton.mpr (common other member)
  rw [distinctBy, distinctFrom, if_neg List.not_mem_nil, distinctFrom_eq_nil known]

theorem find?_of_mem_distinctFrom {key : α → κ} {seen : List κ} {list : List α} {member : α}
    (kept : member ∈ distinctFrom key seen list) :
    list.find? (fun other => key other = key member) = some member := by
  induction list generalizing seen with
  | nil => cases kept
  | cons first rest ih =>
      -- A later member is kept only if its key is not the first one's.
      have passed : ∀ known : List κ, key first ∈ known → member ∈ distinctFrom key known rest →
          (first :: rest).find? (fun other => key other = key member) = some member := by
        intro known among later
        have fresh := (key_mem_distinctFrom_iff key known rest (key member)).mp
          (List.mem_map_of_mem later)
        have different : ¬ key first = key member := fun same => fresh.2 (same ▸ among)
        rw [List.find?_cons_of_neg (by simpa using different)]
        exact ih later
      rw [distinctFrom] at kept
      split at kept
      · next old => exact passed seen old kept
      · rcases List.mem_cons.mp kept with rfl | later
        · exact List.find?_cons_of_pos (by simp)
        · exact passed _ List.mem_cons_self later

/-- **A member that is kept is the first of the list with its key.** -/
theorem find?_of_mem_distinctBy {key : α → κ} {list : List α} {member : α}
    (kept : member ∈ distinctBy key list) :
    list.find? (fun other => key other = key member) = some member :=
  find?_of_mem_distinctFrom kept

end StateSheet
