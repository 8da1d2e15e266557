import StateSheet.Proofs.FileTree.Resolve
import StateSheet.Proofs.Path.Names
import StateSheet.Walk

/-!
# What walks come to

A walk comes to files of the tree only, each by the path of the root as it was
written, continued by the names that lead from there to the file (`mem_walk`), and
in the order of the tree (`walkFrom_sublist`). In a well named tree the components of
a walked path tell it from all others of the walk (`walk_components_injective`), and
if names tell the entries of a directory apart, no path is walked twice
(`nodup_components_walk`).
-/

set_option autoImplicit false

namespace StateSheet

mutual
/-- A walk comes to files below an entry in the order in which the tree has them, to each by
the path of the entry continued by the names that lead to the file. -/
theorem walkFrom_sublist (scope : WalkScope) : ∀ (layers : List IgnoreLayer) (path : Path)
    (node : FileTree),
    (walkFrom scope layers path node).Sublist (node.files.map fun file => path.joinAll file.1)
  | _, path, .file content => by
      rw [walkFrom, FileTree.files, FileTree.filesFrom]
      exact List.Sublist.refl [path]
  | layers, path, .directory entries => by
      rw [walkFrom, FileTree.files, FileTree.filesFrom]
      exact walkEntries_sublist scope _ path entries

theorem walkEntries_sublist (scope : WalkScope) : ∀ (layers : List IgnoreLayer) (path : Path)
    (entries : List (Text × FileTree)),
    (walkEntries scope layers path entries).Sublist
      ((FileTree.filesInFrom [] entries).map fun file => path.joinAll file.1)
  | _, _, [] => by
      rw [walkEntries]
      exact List.nil_sublist _
  | layers, path, (name, node) :: rest => by
      have below : (node.files.map fun file => ([name] ++ file.1, file.2)).map
            (fun file => path.joinAll file.1) =
          node.files.map fun file => (path.join name).joinAll file.1 := by
        rw [List.map_map]
        rfl
      rw [walkEntries, FileTree.filesInFrom, FileTree.filesFrom_eq_map, List.nil_append,
        List.map_append, below]
      refine List.Sublist.append ?_ (walkEntries_sublist scope layers path rest)
      split
      · exact List.nil_sublist _
      · exact walkFrom_sublist scope layers (path.join name) node
end

theorem mem_walkFrom (scope : WalkScope) (layers : List IgnoreLayer) (path : Path)
    (node : FileTree) {found : Path} (member : found ∈ walkFrom scope layers path node) :
    ∃ names content, (names, content) ∈ node.files ∧ found = path.joinAll names := by
  obtain ⟨⟨names, content⟩, isFile, rfl⟩ :=
    List.mem_map.mp ((walkFrom_sublist scope layers path node).subset member)
  exact ⟨names, content, isFile, rfl⟩

/-- **A walk comes to files of the tree**, each by the root continued by the names
that lead to the file from there. -/
theorem mem_walk {workspace : Workspace} {respectsRepository : Bool} {root found : Path}
    (walked : found ∈ walk workspace respectsRepository root) :
    ∃ base names content, workspace.resolve root = .ok base ∧
      (base ++ names, content) ∈ workspace.tree.files ∧ found = root.joinAll names ∧
      (names = [] → workspace.tree.at? base = some (.file content)) := by
  unfold walk at walked
  split at walked
  · cases walked
  · split at walked
    · cases walked
    · rename_i base resolved
      split at walked
      · cases walked
      · rename_i node present
        obtain ⟨names, content, isFile, rfl⟩ := mem_walkFrom _ [] root node walked
        refine ⟨base, names, content, resolved, FileTree.mem_files_of_at? present isFile, rfl, ?_⟩
        rintro rfl
        rw [present, FileTree.eq_file_of_mem_files isFile]

/-- Names that a directory can have lead a walk to every file it comes to. -/
theorem FileTree.WellNamed.names_of_walk {workspace : Workspace}
    (wellNamed : workspace.tree.WellNamed) {base names : Place} {content : ByteArray}
    (isFile : (base ++ names, content) ∈ workspace.tree.files) :
    ∀ name ∈ names, Path.IsName name :=
  fun name member => wellNamed _ isFile name (List.mem_append_right base member)

/-- **The components of a walked path tell it from all others of the walk.** -/
theorem walk_components_injective {workspace : Workspace} (wellNamed : workspace.tree.WellNamed)
    {respectsRepository : Bool} {root first second : Path}
    (firstWalked : first ∈ walk workspace respectsRepository root)
    (secondWalked : second ∈ walk workspace respectsRepository root)
    (same : first.components = second.components) : first = second := by
  obtain ⟨_, names, _, resolved, isFile, rfl, _⟩ := mem_walk firstWalked
  obtain ⟨_, others, _, _, isFileToo, rfl, _⟩ := mem_walk secondWalked
  have given : root.written ≠ [] :=
    Workspace.written_ne_nil_of_check (Workspace.resolve_eq_ok_iff.mp resolved).1
  rw [Path.joinAll_injective given (wellNamed.names_of_walk isFile)
    (wellNamed.names_of_walk isFileToo) same]

/-- **A walk comes to a file once**: no two of its paths have the same components. -/
theorem nodup_components_walk {workspace : Workspace} (wellNamed : workspace.tree.WellNamed)
    (distinct : workspace.tree.hasDistinctNames = true) (respectsRepository : Bool)
    (root : Path) : ((walk workspace respectsRepository root).map Path.components).Nodup := by
  unfold walk
  split
  · exact List.nodup_nil
  · split
    · exact List.nodup_nil
    · rename_i base resolved
      split
      · exact List.nodup_nil
      · rename_i node present
        have given := Workspace.written_ne_nil_of_check (Workspace.resolve_eq_ok_iff.mp resolved).1
        refine ((walkFrom_sublist _ [] root node).map Path.components).nodup ?_
        have places := FileTree.nodup_places (FileTree.hasDistinctNames_of_at? distinct present)
        have nodeWellNamed := wellNamed.of_at? present
        rw [List.map_map]
        refine List.Nodup.map_on (fun file member other otherMember same => ?_) places.of_map
        have sameNames : file.1 = other.1 :=
          Path.joinAll_injective given (nodeWellNamed file member)
            (nodeWellNamed other otherMember) same
        exact List.inj_on_of_nodup_map places member otherMember sameNames

/-- A walked path has the first segment of a relative root in front, and ends in a segment
that leads somewhere. -/
theorem pieces_of_walked {workspace : Workspace} (wellNamed : workspace.tree.WellNamed)
    {respectsRepository : Bool} {root path : Path} (relative : root.isAbsolute = false)
    (walked : path ∈ walk workspace respectsRepository root) :
    ∃ first rest more front last, Text.pieces '/' root.written = first :: rest ∧ first ≠ [] ∧
      Text.pieces '/' path.written = first :: more ∧
      Text.pieces '/' path.written = front ++ [last] ∧ Path.isTrivial last = false := by
  obtain ⟨base, names, content, resolved, isFile, rfl, onlyRoot⟩ := mem_walk walked
  have proper := wellNamed.names_of_walk isFile
  have given := Workspace.written_ne_nil_of_check (Workspace.resolve_eq_ok_iff.mp resolved).1
  obtain ⟨first, rest, split, visible⟩ := Path.pieces_of_relative given relative
  refine ⟨first, rest, ?_⟩
  rcases List.eq_nil_or_concat names with rfl | ⟨above, last, rfl⟩
  · obtain ⟨front, name, _, splitLast, named, _⟩ :=
      Workspace.exists_name_of_resolve resolved (onlyRoot rfl)
    have leads : Path.isTrivial name = false := by
      rw [← Bool.not_eq_true, ← Path.component?_eq_none_iff, named]
      exact Option.some_ne_none _
    exact ⟨rest, front, name, split, visible, split, splitLast, leads⟩
  · rw [List.concat_eq_append] at proper ⊢
    have present : above ++ [last] ≠ [] :=
      List.append_ne_nil_of_right_ne_nil _ (List.cons_ne_nil _ _)
    obtain ⟨front, segments, rootFront⟩ := Path.pieces_joinAll given proper present
    have started : ∃ others, front = first :: others := by
      rcases rootFront with whole | shortened
      · exact ⟨rest, whole.symm.trans split⟩
      · cases front with
        | nil =>
            rw [split] at shortened
            cases shortened
            exact absurd rfl visible
        | cons other others =>
            rw [split] at shortened
            cases shortened
            exact ⟨others, rfl⟩
    obtain ⟨others, rfl⟩ := started
    refine ⟨others ++ (above ++ [last]), first :: others ++ above, last, split, visible, segments,
      by rw [segments, List.append_assoc], ?_⟩
    exact (proper last (List.mem_append_right _ List.mem_cons_self)).isTrivial

end StateSheet
