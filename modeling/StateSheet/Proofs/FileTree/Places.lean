import Mathlib.Data.List.Nodup
import StateSheet.FileTree.Basic
import StateSheet.Proofs.Path.Names

/-!
# Places in file trees

What lies at a place is looked up step by step (`at?_append`), and only
directories have anything below them (`at?_dropLast`). The files of a tree
below a place are files of the tree (`mem_files_of_at?`).

A tree is well named when every file is reached by names that a directory can
have. If besides no directory has two entries with one name, what is looked up at the
place of a file is that file (`at?_of_mem_files`).
-/

set_option autoImplicit false

namespace StateSheet

namespace FileTree

/-! ## Looking up -/

@[simp] theorem at?_nil (tree : FileTree) : tree.at? [] = some tree := by
  rw [at?.eq_def]

theorem at?_cons (tree : FileTree) (name : Text) (place : Place) :
    tree.at? (name :: place) = (child? name tree.entries).bind fun node => node.at? place := by
  rw [at?.eq_def]

theorem at?_append (tree : FileTree) (first second : Place) :
    tree.at? (first ++ second) = (tree.at? first).bind fun node => node.at? second := by
  induction first generalizing tree with
  | nil => rw [List.nil_append, at?_nil, Option.bind_some]
  | cons name rest ih =>
      rw [List.cons_append, at?_cons, at?_cons, Option.bind_assoc]
      congr 1
      funext node
      exact ih node

/-- What has something below it is a directory. -/
theorem at?_concat_eq_some {tree node : FileTree} {place : Place} {name : Text}
    (found : tree.at? (place ++ [name]) = some node) :
    ∃ entries, tree.at? place = some (.directory entries) := by
  rw [at?_append] at found
  cases above : tree.at? place with
  | none => rw [above] at found; cases found
  | some parent =>
      rw [above, Option.bind_some, at?_cons] at found
      cases parent with
      | file content => cases found
      | directory entries => exact ⟨entries, rfl⟩

/-- Going up from a directory leads to a directory. -/
theorem at?_dropLast {tree : FileTree} {place : Place} {entries : List (Text × FileTree)}
    (found : tree.at? place = some (.directory entries)) :
    ∃ above, tree.at? place.dropLast = some (.directory above) := by
  rcases List.eq_nil_or_concat place with rfl | ⟨front, name, rfl⟩
  · exact ⟨entries, found⟩
  · rw [List.concat_eq_append] at found ⊢
    rw [List.dropLast_concat]
    exact at?_concat_eq_some found

/-! ## Files below a place -/

mutual
/-- The files of a tree have the same places behind any place. -/
theorem filesFrom_eq_map : ∀ (place : Place) (tree : FileTree),
    tree.filesFrom place = tree.files.map fun file => (place ++ file.1, file.2)
  | place, .file content => by simp [files, filesFrom]
  | place, .directory entries => by
      rw [files, filesFrom, filesFrom]
      exact filesInFrom_eq_map place entries

theorem filesInFrom_eq_map : ∀ (place : Place) (entries : List (Text × FileTree)),
    filesInFrom place entries =
      (filesInFrom [] entries).map fun file => (place ++ file.1, file.2)
  | place, [] => by simp [filesInFrom]
  | place, (name, node) :: rest => by
      rw [filesInFrom, filesInFrom, filesFrom_eq_map (place ++ [name]) node,
        filesFrom_eq_map ([] ++ [name]) node, filesInFrom_eq_map place rest]
      simp [Function.comp_def]
end

theorem mem_filesInFrom_of_child? {name : Text} {entries : List (Text × FileTree)}
    {node : FileTree} (found : child? name entries = some node) {place : Place}
    {content : ByteArray} (member : (place, content) ∈ node.files) :
    (name :: place, content) ∈ filesInFrom [] entries := by
  induction entries with
  | nil => cases found
  | cons entry rest ih =>
      obtain ⟨other, below⟩ := entry
      rw [filesInFrom, List.mem_append]
      rw [child?] at found
      by_cases same : other = name
      · rw [if_pos same, Option.some.injEq] at found
        subst same found
        rw [filesFrom_eq_map]
        exact Or.inl (List.mem_map.mpr ⟨_, member, rfl⟩)
      · rw [if_neg same] at found
        exact Or.inr (ih found)

/-- **The files below a place are files of the tree.** -/
theorem mem_files_of_at? {tree node : FileTree} {above : Place}
    (found : tree.at? above = some node) {place : Place} {content : ByteArray}
    (member : (place, content) ∈ node.files) : (above ++ place, content) ∈ tree.files := by
  induction above generalizing tree with
  | nil =>
      rw [at?_nil, Option.some.injEq] at found
      subst found
      exact member
  | cons name rest ih =>
      rw [at?_cons, Option.bind_eq_some_iff] at found
      obtain ⟨child, entered, below⟩ := found
      cases tree with
      | file content => cases entered
      | directory entries =>
          rw [files, filesFrom]
          exact mem_filesInFrom_of_child? entered (ih below)

theorem ne_nil_of_mem_filesInFrom {entries : List (Text × FileTree)} {place : Place}
    {content : ByteArray} (member : (place, content) ∈ filesInFrom [] entries) : place ≠ [] := by
  induction entries with
  | nil => cases member
  | cons entry rest ih =>
      rw [filesInFrom, filesFrom_eq_map] at member
      rcases List.mem_append.mp member with below | later
      · obtain ⟨file, _, same⟩ := List.mem_map.mp below
        rintro rfl
        simp at same
      · exact ih later

/-- A file at the place of a tree itself is the tree. -/
theorem eq_file_of_mem_files {tree : FileTree} {content : ByteArray}
    (member : ([], content) ∈ tree.files) : tree = .file content := by
  cases tree with
  | file other =>
      rw [files, filesFrom, List.mem_singleton, Prod.mk.injEq] at member
      rw [member.2]
  | directory entries =>
      rw [files, filesFrom] at member
      exact absurd rfl (ne_nil_of_mem_filesInFrom member)

/-! ## Names -/

/-- Do names that a directory can have lead to every file of a tree? -/
def WellNamed (tree : FileTree) : Prop := ∀ file ∈ tree.files, ∀ name ∈ file.1, Path.IsName name

instance (tree : FileTree) : Decidable tree.WellNamed :=
  inferInstanceAs (Decidable (∀ file ∈ tree.files, ∀ name ∈ file.1, Path.IsName name))

/-- The entries of a well named directory have names if they hold files, and are well
named themselves. -/
theorem WellNamed.of_cons {name : Text} {node : FileTree} {rest : List (Text × FileTree)}
    (wellNamed : (directory ((name, node) :: rest)).WellNamed) :
    (node.files ≠ [] → Path.IsName name) ∧ node.WellNamed ∧ (directory rest).WellNamed := by
  have inNode : ∀ file ∈ node.files, ∀ other ∈ name :: file.1, Path.IsName other := by
    intro file member
    refine wellNamed (name :: file.1, file.2) ?_
    rw [files, filesFrom, filesInFrom, filesFrom_eq_map]
    exact List.mem_append_left _ (List.mem_map.mpr ⟨file, member, rfl⟩)
  refine ⟨?_, ?_, ?_⟩
  · intro present
    obtain ⟨file, member⟩ := List.exists_mem_of_ne_nil _ present
    exact inNode file member name List.mem_cons_self
  · intro file member other among
    exact inNode file member other (List.mem_cons_of_mem _ among)
  · intro file member
    refine wellNamed file ?_
    rw [files, filesFrom, filesInFrom]
    exact List.mem_append_right _ member

/-- What lies in a well named tree is well named. -/
theorem WellNamed.of_at? {tree node : FileTree} (wellNamed : tree.WellNamed) {place : Place}
    (found : tree.at? place = some node) : node.WellNamed := by
  intro file member name among
  exact wellNamed (place ++ file.1, file.2) (mem_files_of_at? found member) name
    (List.mem_append_right _ among)

/-! ## Different names -/

mutual
/-- Do the entries of every directory of a tree have different names? -/
def hasDistinctNames : FileTree → Bool
  | file _ => true
  | directory entries => entriesHaveDistinctNames entries

/-- Do entries have different names, and so has everything below them? -/
def entriesHaveDistinctNames : List (Text × FileTree) → Bool
  | [] => true
  | (name, node) :: rest =>
      decide (∀ entry ∈ rest, entry.1 ≠ name) && node.hasDistinctNames &&
        entriesHaveDistinctNames rest
end

/-- What is looked up by a name is an entry with that name. -/
theorem mem_of_child? {name : Text} {entries : List (Text × FileTree)} {node : FileTree}
    (found : child? name entries = some node) : (name, node) ∈ entries := by
  induction entries with
  | nil => cases found
  | cons entry rest ih =>
      rw [child?] at found
      by_cases same : entry.1 = name
      · rw [if_pos same, Option.some.injEq] at found
        subst same found
        exact List.mem_cons_self
      · rw [if_neg same] at found
        exact List.mem_cons_of_mem _ (ih found)

theorem entriesHaveDistinctNames_iff {entries : List (Text × FileTree)} :
    entriesHaveDistinctNames entries = true ↔
      (entries.map (·.1)).Nodup ∧ ∀ entry ∈ entries, entry.2.hasDistinctNames = true := by
  induction entries with
  | nil => simp [entriesHaveDistinctNames]
  | cons entry rest ih =>
      rw [entriesHaveDistinctNames, Bool.and_eq_true, Bool.and_eq_true, decide_eq_true_eq, ih,
        List.map_cons, List.nodup_cons, List.forall_mem_cons]
      constructor
      · rintro ⟨⟨fresh, node⟩, names, others⟩
        refine ⟨⟨fun again => ?_, names⟩, node, others⟩
        obtain ⟨other, member, same⟩ := List.mem_map.mp again
        exact fresh other member same
      · rintro ⟨⟨fresh, names⟩, node, others⟩
        refine ⟨⟨fun other member same => fresh ?_, node⟩, names, others⟩
        exact List.mem_map.mpr ⟨other, member, same⟩

/-- An entry is looked up by its name if the names are different. -/
theorem child?_of_mem {entries : List (Text × FileTree)} (different : (entries.map (·.1)).Nodup)
    {name : Text} {node : FileTree} (member : (name, node) ∈ entries) :
    child? name entries = some node := by
  induction entries with
  | nil => cases member
  | cons entry rest ih =>
      rw [List.map_cons, List.nodup_cons] at different
      rcases List.mem_cons.mp member with rfl | later
      · rw [child?, if_pos rfl]
      · have elsewhere : entry.1 ≠ name := by
          intro same
          apply different.1
          rw [same]
          exact List.mem_map.mpr ⟨_, later, rfl⟩
        rw [child?, if_neg elsewhere]
        exact ih different.2 later

/-- A tree has an entry with a name, and what lies at the place behind it. -/
theorem at?_cons_of_mem {entries : List (Text × FileTree)}
    (different : (entries.map (·.1)).Nodup) {name : Text} {node : FileTree}
    (member : (name, node) ∈ entries) (place : Place) :
    (directory entries).at? (name :: place) = node.at? place := by
  rw [at?_cons, FileTree.entries, child?_of_mem different member, Option.bind_some]

/-- What lies behind a name lies in an entry with that name. -/
theorem mem_of_at?_cons {entries : List (Text × FileTree)} {name : Text} {place : Place}
    {found : FileTree} (present : (directory entries).at? (name :: place) = some found) :
    ∃ node, (name, node) ∈ entries ∧ node.at? place = some found := by
  rw [at?_cons, FileTree.entries, Option.bind_eq_some_iff] at present
  obtain ⟨node, entered, below⟩ := present
  exact ⟨node, mem_of_child? entered, below⟩

/-- What lies in a tree has different names in each directory if the tree has. -/
theorem hasDistinctNames_of_at? {tree node : FileTree} (distinct : tree.hasDistinctNames = true)
    {place : Place} (found : tree.at? place = some node) : node.hasDistinctNames = true := by
  induction place generalizing tree with
  | nil =>
      rw [at?_nil, Option.some.injEq] at found
      exact found ▸ distinct
  | cons name rest ih =>
      cases tree with
      | file content => cases found
      | directory entries =>
          obtain ⟨child, member, below⟩ := mem_of_at?_cons found
          rw [hasDistinctNames, entriesHaveDistinctNames_iff] at distinct
          exact ih (distinct.2 _ member) below

mutual
/-- **What is looked up at the place of a file is that file**, if names tell the entries
of a directory apart. -/
theorem at?_of_mem_files : ∀ {tree : FileTree}, tree.hasDistinctNames = true →
    ∀ {place : Place} {content : ByteArray}, (place, content) ∈ tree.files →
      tree.at? place = some (.file content)
  | .file other, _, place, content, member => by
      rw [files, filesFrom, List.mem_singleton, Prod.mk.injEq] at member
      obtain ⟨rfl, rfl⟩ := member
      exact at?_nil _
  | .directory entries, distinct, place, content, member => by
      rw [hasDistinctNames] at distinct
      rw [files, filesFrom] at member
      obtain ⟨name, rest, node, rfl, entered, below⟩ := child?_of_mem_filesInFrom distinct member
      rw [at?_cons, FileTree.entries, entered, Option.bind_some, below]

theorem child?_of_mem_filesInFrom : ∀ {entries : List (Text × FileTree)},
    entriesHaveDistinctNames entries = true → ∀ {place : Place} {content : ByteArray},
      (place, content) ∈ filesInFrom [] entries → ∃ name rest node, place = name :: rest ∧
        child? name entries = some node ∧ node.at? rest = some (.file content)
  | [], _, _, _, member => by cases member
  | (name, node) :: others, distinct, place, content, member => by
      rw [entriesHaveDistinctNames, Bool.and_eq_true, Bool.and_eq_true, decide_eq_true_eq]
        at distinct
      obtain ⟨⟨fresh, nodeDistinct⟩, othersDistinct⟩ := distinct
      rw [filesInFrom, filesFrom_eq_map] at member
      rcases List.mem_append.mp member with here | later
      · obtain ⟨⟨rest, _⟩, below, same⟩ := List.mem_map.mp here
        cases same
        exact ⟨name, rest, node, rfl, by rw [child?, if_pos rfl],
          at?_of_mem_files nodeDistinct below⟩
      · obtain ⟨other, rest, child, rfl, entered, below⟩ :=
          child?_of_mem_filesInFrom othersDistinct later
        have different : name ≠ other :=
          (fresh (other, child) (mem_of_child? entered)).symm
        exact ⟨other, rest, child, rfl, by rw [child?, if_neg different, entered], below⟩
end

mutual
/-- **The files of a tree have different places**, if names tell the entries of a directory
apart. -/
theorem nodup_places : ∀ {tree : FileTree}, tree.hasDistinctNames = true →
    (tree.files.map Prod.fst).Nodup
  | .file content, _ => List.nodup_singleton []
  | .directory entries, distinct => by
      rw [hasDistinctNames] at distinct
      rw [files, filesFrom]
      exact nodup_placesIn distinct

theorem nodup_placesIn : ∀ {entries : List (Text × FileTree)},
    entriesHaveDistinctNames entries = true → ((filesInFrom [] entries).map Prod.fst).Nodup
  | [], _ => List.nodup_nil
  | (name, node) :: others, distinct => by
      rw [entriesHaveDistinctNames, Bool.and_eq_true, Bool.and_eq_true, decide_eq_true_eq]
        at distinct
      obtain ⟨⟨fresh, nodeDistinct⟩, othersDistinct⟩ := distinct
      have inNode : (node.files.map fun file => ([name] ++ file.1, file.2)).map Prod.fst =
          (node.files.map Prod.fst).map ([name] ++ ·) := by
        rw [List.map_map, List.map_map]
        rfl
      rw [filesInFrom, filesFrom_eq_map, List.nil_append, List.map_append, inNode]
      refine List.nodup_append.mpr ⟨?_, nodup_placesIn othersDistinct, ?_⟩
      · exact (nodup_places nodeDistinct).map (List.append_right_injective [name])
      · rintro place inside other outside rfl
        obtain ⟨below, _, rfl⟩ := List.mem_map.mp inside
        obtain ⟨⟨_, content⟩, member, rfl⟩ := List.mem_map.mp outside
        obtain ⟨first, rest, child, same, entered, _⟩ :=
          child?_of_mem_filesInFrom othersDistinct member
        cases same
        exact fresh _ (mem_of_child? entered) rfl
end

end FileTree

end StateSheet
