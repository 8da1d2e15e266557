import StateSheet.Proofs.Walk

/-!
# Files that walks come to

A walk comes to every file below its root, unless an ignore file, or what the user
excludes, decides against the file or against a directory on the way
(`WalkScope.hides`). In a directory whose entries have different names it comes to no
others (`joinAll_mem_walk_iff`).
-/

set_option autoImplicit false

namespace StateSheet

/-! ## Hidden entries -/

/-- Does an ignore file, or what the user excludes, decide against an entry on the way that
names lead from an entry of the walk? -/
def WalkScope.hides (scope : WalkScope) : List IgnoreLayer → Path → FileTree → List Text → Bool
  | _, _, _, [] => false
  | layers, path, node, name :: rest =>
      let inside := scope.enter layers path node.entries
      match FileTree.child? name node.entries with
      | none => false
      | some child =>
          scope.ignores inside (path.join name) child.content?.isNone ||
            hides scope inside (path.join name) child rest

namespace WalkScope

variable {scope : WalkScope} {layers : List IgnoreLayer} {path : Path}

theorem hides_cons {node child : FileTree} {name : Text} {rest : List Text}
    (found : FileTree.child? name node.entries = some child) :
    scope.hides layers path node (name :: rest) =
      (scope.ignores (scope.enter layers path node.entries) (path.join name)
          child.content?.isNone ||
        scope.hides (scope.enter layers path node.entries) (path.join name) child rest) := by
  rw [hides, found]

/-- A walk enters the entries of a directory that are not ignored. -/
theorem mem_walkEntries_iff {entries : List (Text × FileTree)} {walked : Path} :
    walked ∈ walkEntries scope layers path entries ↔ ∃ entry ∈ entries,
      scope.ignores layers (path.join entry.1) entry.2.content?.isNone = false ∧
        walked ∈ walkFrom scope layers (path.join entry.1) entry.2 := by
  induction entries with
  | nil => simp [walkEntries]
  | cons entry rest ih =>
      rw [walkEntries, List.mem_append, ih, List.exists_mem_cons_iff]
      cases scope.ignores layers (path.join entry.1) entry.2.content?.isNone <;> simp

/-- **A walk comes to a file that nothing hides.** -/
theorem joinAll_mem_walkFrom {node : FileTree} {names : List Text} {content : ByteArray}
    (isFile : node.at? names = some (.file content))
    (kept : scope.hides layers path node names = false) :
    path.joinAll names ∈ walkFrom scope layers path node := by
  induction names generalizing layers path node with
  | nil =>
      rw [FileTree.at?_nil, Option.some.injEq] at isFile
      rw [isFile, walkFrom]
      exact List.mem_cons_self
  | cons name rest ih =>
      rw [FileTree.at?_cons, Option.bind_eq_some_iff] at isFile
      obtain ⟨child, found, below⟩ := isFile
      rw [hides_cons found, Bool.or_eq_false_iff] at kept
      cases node with
      | file other => cases found
      | directory entries =>
          rw [walkFrom, mem_walkEntries_iff]
          exact ⟨_, FileTree.mem_of_child? found, kept.1, ih below kept.2⟩

/-- **Nothing hides a file that a walk comes to**, if names tell the entries of a directory
apart. -/
theorem hides_eq_false {node : FileTree} (wellNamed : node.WellNamed)
    (distinct : node.hasDistinctNames = true) (given : path.written ≠ []) {names : List Text}
    (proper : ∀ name ∈ names, Path.IsName name)
    (walked : path.joinAll names ∈ walkFrom scope layers path node) :
    scope.hides layers path node names = false := by
  induction names generalizing layers path node with
  | nil => rw [hides]
  | cons name rest ih =>
      cases node with
      | file content => rw [hides, FileTree.entries, FileTree.child?]
      | directory entries =>
          rw [walkFrom, mem_walkEntries_iff] at walked
          obtain ⟨⟨other, child⟩, member, kept, below⟩ := walked
          obtain ⟨others, content, isFile, same⟩ := mem_walkFrom scope _ _ child below
          rw [FileTree.hasDistinctNames, FileTree.entriesHaveDistinctNames_iff] at distinct
          have entered := FileTree.at?_cons_of_mem distinct.1 member []
          rw [FileTree.at?_nil] at entered
          -- The components of the path tell by which entry the walk came to it.
          have othersProper : ∀ name ∈ other :: others, Path.IsName name :=
            wellNamed _ (FileTree.mem_files_of_at? entered isFile)
          have sameNames : name :: rest = other :: others :=
            Path.joinAll_injective given proper othersProper (congrArg Path.components same)
          cases sameNames
          have found := FileTree.child?_of_mem distinct.1 member
          rw [hides_cons found, Bool.or_eq_false_iff]
          have isName := proper name List.mem_cons_self
          have properBelow := fun other among => proper other (List.mem_cons_of_mem _ among)
          exact ⟨kept, ih (wellNamed.of_at? entered) (distinct.2 _ member)
            (Path.join_ne_nil path isName.given) properBelow below⟩

end WalkScope

/-! ## Walks from a root -/

/-- Does an ignore file, or what the user excludes, hide what names lead to from the place of
a root? -/
def walkHides (workspace : Workspace) (respectsRepository : Bool) (root : Path) (base : Place)
    (names : List Text) : Bool :=
  match workspace.tree.at? base with
  | none => false
  | some node =>
      let scope : WalkScope :=
        { workspace, respectsRepository, root
          absoluteRoot := Path.ofPlace base
          outer := outerLayers workspace respectsRepository base
          user := .ofUser workspace respectsRepository }
      scope.hides [] root node names

variable {workspace : Workspace} {root : Path} {base : Place} {names : List Text}
  {content : ByteArray}

/-- **A walk comes to every file below its root that no ignore file hides**, unless the root
stands for the standard input. -/
theorem joinAll_mem_walk {respectsRepository : Bool} (given : isStandardInput root = false)
    (resolved : workspace.resolve root = .ok base)
    (isFile : workspace.tree.at? (base ++ names) = some (.file content))
    (kept : walkHides workspace respectsRepository root base names = false) :
    root.joinAll names ∈ walk workspace respectsRepository root := by
  rw [FileTree.at?_append, Option.bind_eq_some_iff] at isFile
  obtain ⟨node, present, below⟩ := isFile
  rw [walkHides, present] at kept
  unfold walk
  rw [given, if_neg Bool.false_ne_true, resolved]
  dsimp only
  rw [present]
  exact WalkScope.joinAll_mem_walkFrom below kept

/-- **A walk comes to no other files below its root**, if their names are those that a
directory can have, and tell its entries apart. -/
theorem joinAll_mem_walk_iff {respectsRepository : Bool} (wellNamed : workspace.tree.WellNamed)
    (distinct : workspace.tree.hasDistinctNames = true) (given : isStandardInput root = false)
    (resolved : workspace.resolve root = .ok base)
    (isFile : workspace.tree.at? (base ++ names) = some (.file content)) :
    root.joinAll names ∈ walk workspace respectsRepository root ↔
      walkHides workspace respectsRepository root base names = false := by
  refine ⟨fun walked => ?_, joinAll_mem_walk given resolved isFile⟩
  have written := Workspace.written_ne_nil_of_check (Workspace.resolve_eq_ok_iff.mp resolved).1
  rw [FileTree.at?_append, Option.bind_eq_some_iff] at isFile
  obtain ⟨node, present, below⟩ := isFile
  have lies : (names ++ [], content) ∈ node.files :=
    FileTree.mem_files_of_at? below List.mem_cons_self
  rw [List.append_nil] at lies
  have proper := (wellNamed.of_at? present) _ lies
  unfold walk at walked
  rw [given, if_neg Bool.false_ne_true, resolved] at walked
  dsimp only at walked
  rw [present] at walked
  rw [walkHides, present]
  exact WalkScope.hides_eq_false (wellNamed.of_at? present)
    (FileTree.hasDistinctNames_of_at? distinct present) written proper walked

end StateSheet
