import Mathlib.Data.List.Sort
import StateSheet.Text.SortedTable

/-!
# What a sorted table holds

The entries of a table and its look-up say the same (`mem_entries_iff`), and a
table that holds some of the entries of another one holds them in the same order
(`entries_sublist`). When the entries written to a table all take their values
from one function of the key, then neither their order nor their repetition
matters: every key written has the value of the function, and every other key
has the value it had (`get?_insertAll_of_agree`). The classes of a stylesheet,
the variants of a registry and the settings of a user are all written in this
way.
-/

set_option autoImplicit false

namespace StateSheet

variable {β : Type}

namespace SortedTable

theorem lookupEntry_eq_some_iff {entries : List (Text × β)} (ascending : Ascending entries)
    {key : Text} {value : β} :
    lookupEntry key entries = some value ↔ (key, value) ∈ entries := by
  induction entries with
  | nil => simp [lookupEntry]
  | cons first rest ih =>
      obtain ⟨above, restAscending⟩ := List.pairwise_cons.mp ascending
      rw [lookupEntry, List.mem_cons]
      by_cases here : key = first.1
      · rw [if_pos here, Option.some_inj]
        constructor
        · rintro rfl
          exact Or.inl (Prod.ext here rfl)
        · rintro (same | later)
          · rw [← same]
          · -- A later entry has a greater key, so it cannot have this one.
            exact absurd (here ▸ above _ later) (List.lt_irrefl _)
      · rw [if_neg here, ih restAscending]
        refine ⟨Or.inr, fun member => member.resolve_left ?_⟩
        rintro rfl
        exact here rfl

/-- A key and a value stand together in a table exactly when the value is found
at the key. -/
theorem mem_entries_iff {table : SortedTable β} {key : Text} {value : β} :
    (key, value) ∈ table.entries ↔ table.get? key = some value :=
  (lookupEntry_eq_some_iff table.ascending).symm

theorem nodup_entries (table : SortedTable β) : table.entries.Nodup := by
  refine table.ascending.imp ?_
  rintro entry _ below rfl
  exact List.lt_irrefl _ below

/-- A table that holds some of the entries of another one holds them in the same order. -/
theorem entries_sublist {first second : SortedTable β} (held : first.entries ⊆ second.entries) :
    first.entries.Sublist second.entries := by
  have antisymm : Std.Antisymm fun earlier later : Text × β => earlier.1 < later.1 :=
    ⟨fun _ _ below above => absurd above (List.lt_asymm below)⟩
  exact List.sublist_of_subperm_of_pairwise (List.subperm_of_subset first.nodup_entries held)
    first.ascending second.ascending

/-- **Tables in which the same is looked up are the same.** -/
theorem eq_of_get?_eq {first second : SortedTable β}
    (same : ∀ key, first.get? key = second.get? key) : first = second := by
  have held : ∀ entry, entry ∈ first.entries ↔ entry ∈ second.entries := by
    intro entry
    rw [mem_entries_iff, mem_entries_iff, same]
  have sameEntries : first.entries = second.entries :=
    (entries_sublist fun entry => (held entry).mp).antisymm
      (entries_sublist fun entry => (held entry).mpr)
  cases first
  cases second
  cases sameEntries
  rfl

/-- **Entries that take their values from one function of the key write that
function**, in whatever order and however often they stand. -/
theorem get?_insertAll_of_agree (known : Text → Option β) {entries : List (Text × β)}
    (agree : ∀ entry ∈ entries, known entry.1 = some entry.2) (table : SortedTable β)
    (key : Text) :
    (table.insertAll entries).get? key =
      if key ∈ entries.map (·.1) then known key else table.get? key := by
  induction entries generalizing table with
  | nil => simp [insertAll]
  | cons first rest ih =>
      have restAgree : ∀ entry ∈ rest, known entry.1 = some entry.2 :=
        fun entry member => agree entry (List.mem_cons_of_mem _ member)
      have step : table.insertAll (first :: rest) =
          (table.insert first.1 first.2).insertAll rest := rfl
      rw [step, ih restAgree, get?_insert, List.map_cons]
      by_cases later : key ∈ rest.map (·.1)
      · rw [if_pos later, if_pos (List.mem_cons_of_mem _ later)]
      · rw [if_neg later]
        by_cases here : key = first.1
        · rw [if_pos here, if_pos (here ▸ List.mem_cons_self), here,
            agree first List.mem_cons_self]
        · rw [if_neg here, if_neg]
          exact fun member => (List.mem_cons.mp member).elim here later

/-- A table of such entries holds the values of the function at the keys
written, and nothing else. -/
theorem get?_ofEntries_of_agree (known : Text → Option β) {entries : List (Text × β)}
    (agree : ∀ entry ∈ entries, known entry.1 = some entry.2) (key : Text) :
    (ofEntries entries).get? key = if key ∈ entries.map (·.1) then known key else none := by
  rw [ofEntries, get?_insertAll_of_agree known agree, get?_empty]

/-- Writing all entries of a table over another leaves the values of the first
in force, and those of the other where the first has none. -/
theorem get?_insertAll_entries (table further : SortedTable β) (key : Text) :
    (table.insertAll further.entries).get? key = (further.get? key).or (table.get? key) := by
  rw [get?_insertAll_of_agree further.get? fun _ => mem_entries_iff.mp]
  by_cases present : key ∈ further.entries.map (·.1)
  · obtain ⟨value, found⟩ := Option.isSome_iff_exists.mp (mem_keys_iff.mp present)
    rw [if_pos present, found, Option.some_or]
  · have missing : further.get? key = none := lookupEntry_eq_none_iff.mpr present
    rw [if_neg present, missing, Option.none_or]

/-- A table made of names, each with its own value if it has one, holds those values. -/
theorem get?_ofEntries_filterMap (known : Text → Option β) (names : List Text) (key : Text) :
    (ofEntries (names.filterMap fun name => (known name).map fun value => (name, value))).get? key =
      if key ∈ names then known key else none := by
  have held : ∀ entry ∈ names.filterMap (fun name => (known name).map fun value => (name, value)),
      entry.1 ∈ names ∧ known entry.1 = some entry.2 := by
    intro entry member
    obtain ⟨name, among, valued⟩ := List.mem_filterMap.mp member
    obtain ⟨value, found, rfl⟩ := Option.map_eq_some_iff.mp valued
    exact ⟨among, found⟩
  rw [get?_ofEntries_of_agree known fun entry member => (held entry member).2]
  by_cases listed : key ∈ names
  · rw [if_pos listed]
    cases found : known key with
    | none => rw [ite_self]
    | some value =>
        have written : (key, value) ∈
            names.filterMap fun name => (known name).map fun value => (name, value) :=
          List.mem_filterMap.mpr ⟨key, listed, by rw [found, Option.map_some]⟩
        rw [if_pos (List.mem_map.mpr ⟨_, written, rfl⟩)]
  · rw [if_neg listed, if_neg]
    intro member
    obtain ⟨entry, written, rfl⟩ := List.mem_map.mp member
    exact listed (held entry written).1

/-- The keys of a table that come from a list of different names are the names kept, up to
their order. -/
theorem keys_perm_filter {table : SortedTable β} {names : List Text} (different : names.Nodup)
    {kept : Text → Bool}
    (keys : ∀ key, table.contains key = true ↔ key ∈ names ∧ kept key = true) :
    table.keys.Perm (names.filter kept) := by
  refine (List.perm_ext_iff_of_nodup table.nodup_keys (different.filter _)).mpr fun key => ?_
  rw [mem_keys_iff, keys, List.mem_filter]

theorem isEmpty_iff {table : SortedTable β} :
    table.isEmpty = true ↔ ∀ key, table.get? key = none := by
  rw [isEmpty, List.isEmpty_iff]
  constructor
  · intro bare key
    rw [get?, bare, lookupEntry]
  · intro missing
    refine List.eq_nil_iff_forall_not_mem.mpr fun entry member => ?_
    have found := mem_entries_iff.mp member
    rw [missing entry.1] at found
    cases found

end SortedTable

end StateSheet
