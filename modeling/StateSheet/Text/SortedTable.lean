import StateSheet.Text.Basic

/-!
# Sorted tables

A table from texts to values whose keys are held in strictly ascending order.
Variants are registered in such a table, utilities are looked up in one, and
the rules of a stylesheet come out in the order of one.

A table is known through its look-up `get?`: writing a key changes the value
found there and no other (`get?_insert`). The ascending order is part of the
type, so a table has no key twice (`nodup_keys`).
-/

set_option autoImplicit false

namespace StateSheet

variable {β : Type}

/-! ## Entries in ascending order -/

/-- The entries stand in strictly ascending order of their keys. -/
def Ascending (entries : List (Text × β)) : Prop :=
  entries.Pairwise fun first second => first.1 < second.1

/-- The entries with a value written at a key, in place of the one there or at
the place that keeps the order. -/
def insertEntry (key : Text) (value : β) : List (Text × β) → List (Text × β)
  | [] => [(key, value)]
  | entry :: rest =>
      if key < entry.1 then (key, value) :: entry :: rest
      else if key = entry.1 then (key, value) :: rest
      else entry :: insertEntry key value rest

/-- The keys after writing are the key written and those there before. -/
theorem mem_keys_insertEntry {key : Text} {value : β} {entries : List (Text × β)}
    {entry : Text × β} (member : entry ∈ insertEntry key value entries) :
    entry = (key, value) ∨ entry ∈ entries := by
  induction entries with
  | nil => exact Or.inl (List.mem_singleton.mp member)
  | cons first rest ih =>
      unfold insertEntry at member
      split at member
      · rcases List.mem_cons.mp member with here | there
        · exact Or.inl here
        · exact Or.inr there
      · split at member
        · rcases List.mem_cons.mp member with here | there
          · exact Or.inl here
          · exact Or.inr (List.mem_cons_of_mem _ there)
        · rcases List.mem_cons.mp member with here | there
          · exact Or.inr (here ▸ List.mem_cons_self ..)
          · rcases ih there with written | old
            · exact Or.inl written
            · exact Or.inr (List.mem_cons_of_mem _ old)

/-- Writing keeps the ascending order. -/
theorem Ascending.insertEntry {key : Text} {value : β} {entries : List (Text × β)}
    (ascending : Ascending entries) : Ascending (insertEntry key value entries) := by
  induction entries with
  | nil => exact List.pairwise_singleton ..
  | cons first rest ih =>
      obtain ⟨above, restAscending⟩ := List.pairwise_cons.mp ascending
      unfold StateSheet.insertEntry
      split
      · rename_i below
        refine List.pairwise_cons.mpr ⟨fun entry member => ?_, ascending⟩
        rcases List.mem_cons.mp member with rfl | later
        · exact below
        · exact List.lt_trans below (above entry later)
      · split
        · rename_i same
          refine List.pairwise_cons.mpr ⟨fun entry member => ?_, restAscending⟩
          exact same ▸ above entry member
        · rename_i notBelow different
          refine List.pairwise_cons.mpr ⟨fun entry member => ?_, ih restAscending⟩
          rcases mem_keys_insertEntry member with rfl | old
          · rcases Std.lt_trichotomy key first.1 with below | same | beyond
            · exact absurd below notBelow
            · exact absurd same different
            · exact beyond
          · exact above entry old

/-- The value of the first entry with a key. -/
def lookupEntry (key : Text) : List (Text × β) → Option β
  | [] => none
  | entry :: rest => if key = entry.1 then some entry.2 else lookupEntry key rest

/-- The value written is found at its key, and every other key is as before. -/
theorem lookupEntry_insertEntry (key sought : Text) (value : β) (entries : List (Text × β)) :
    lookupEntry sought (insertEntry key value entries) =
      if sought = key then some value else lookupEntry sought entries := by
  induction entries with
  | nil => simp [insertEntry, lookupEntry]
  | cons first rest ih =>
      unfold insertEntry
      split
      · simp [lookupEntry]
      · split
        · rename_i same
          by_cases here : sought = key
          · simp [lookupEntry, here]
          · have elsewhere : sought ≠ first.1 := same ▸ here
            simp [lookupEntry, here, elsewhere]
        · rename_i different
          by_cases here : sought = key
          · subst here
            simp [lookupEntry, different, ih]
          · simp [lookupEntry, ih, here]

/-- A key is found exactly when an entry has it. -/
theorem lookupEntry_eq_none_iff {key : Text} {entries : List (Text × β)} :
    lookupEntry key entries = none ↔ key ∉ entries.map (·.1) := by
  induction entries with
  | nil => simp [lookupEntry]
  | cons first rest ih =>
      by_cases here : key = first.1
      · simp [lookupEntry, here]
      · simp only [lookupEntry, here, if_false, ih, List.map_cons, List.mem_cons, false_or]

/-! ## Tables -/

/-- Entries in strictly ascending order of their keys. -/
structure SortedTable (β : Type) where
  entries : List (Text × β)
  ascending : Ascending entries

namespace SortedTable

/-- The table without an entry. -/
def empty : SortedTable β := ⟨[], List.Pairwise.nil⟩

/-- The table with a value written at a key, in place of the one there. -/
def insert (table : SortedTable β) (key : Text) (value : β) : SortedTable β :=
  ⟨insertEntry key value table.entries, table.ascending.insertEntry⟩

/-- The table with entries written one after another, a later one in place of
an earlier one with its key. -/
def insertAll (table : SortedTable β) (entries : List (Text × β)) : SortedTable β :=
  entries.foldl (fun written entry => written.insert entry.1 entry.2) table

/-- The table of entries written one after another. -/
def ofEntries (entries : List (Text × β)) : SortedTable β := empty.insertAll entries

/-- The value at a key. -/
def get? (table : SortedTable β) (key : Text) : Option β := lookupEntry key table.entries

/-- Is there a value at a key? -/
def contains (table : SortedTable β) (key : Text) : Bool := (table.get? key).isSome

/-- The keys, in ascending order. -/
def keys (table : SortedTable β) : List Text := table.entries.map (·.1)

/-- The values, in the order of their keys. -/
def values (table : SortedTable β) : List β := table.entries.map (·.2)

/-- How many keys there are. -/
def size (table : SortedTable β) : Nat := table.entries.length

/-- Is there no key? -/
def isEmpty (table : SortedTable β) : Bool := table.entries.isEmpty

@[simp] theorem get?_empty (key : Text) : (empty : SortedTable β).get? key = none := rfl

/-- The value written is found at its key, and every other key is as before. -/
@[simp] theorem get?_insert (table : SortedTable β) (key sought : Text) (value : β) :
    (table.insert key value).get? sought =
      if sought = key then some value else table.get? sought :=
  lookupEntry_insertEntry key sought value table.entries

/-- A key is among the keys exactly when a value is found there. -/
theorem mem_keys_iff {table : SortedTable β} {key : Text} :
    key ∈ table.keys ↔ table.contains key = true := by
  have missing := @lookupEntry_eq_none_iff β key table.entries
  unfold keys contains get?
  cases found : lookupEntry key table.entries with
  | none => simpa using missing.mp found
  | some value =>
      rw [found] at missing
      simp only [reduceCtorEq, false_iff, Classical.not_not] at missing
      simpa using missing

/-- The keys stand in strictly ascending order. -/
theorem keys_ascending (table : SortedTable β) : table.keys.Pairwise (· < ·) :=
  List.pairwise_map.mpr table.ascending

/-- No key occurs twice. -/
theorem nodup_keys (table : SortedTable β) : table.keys.Nodup := by
  refine List.Pairwise.imp ?_ table.keys_ascending
  rintro key _ below rfl
  exact List.lt_irrefl key below

end SortedTable

end StateSheet
