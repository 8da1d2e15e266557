import StateSheet.Proofs.FileTree.Writing

/-!
# Trees in another order

A directory lists its entries in some order, and no one promises which. Two trees are
reordered to each other when they differ in such orders only, at whatever depth
(`FileTree.Reordered`).

Reordering keeps the texts of a tree, up to their order (`Reordered.texts`). If the names in
every directory are different, it also keeps what is looked up at a place, up to the same
reordering (`Reordered.at?`), and so paths lead where they led (`Workspace.find_of_reordered`).
-/

set_option autoImplicit false

namespace StateSheet

namespace FileTree

/-- Trees that differ only in the order in which directories list their entries. -/
inductive Reordered : FileTree → FileTree → Prop where
  | refl (tree : FileTree) : Reordered tree tree
  /-- One directory lists its entries in another order. -/
  | listed {entries others : List (Text × FileTree)} : entries.Perm others →
      Reordered (.directory entries) (.directory others)
  /-- One entry of a directory is reordered. -/
  | within (before : List (Text × FileTree)) (name : Text) {node other : FileTree}
      (after : List (Text × FileTree)) : Reordered node other →
        Reordered (.directory (before ++ (name, node) :: after))
          (.directory (before ++ (name, other) :: after))
  | trans {first second third : FileTree} :
      Reordered first second → Reordered second third → Reordered first third

/-! ## Texts -/

theorem textsIn_eq_flatMap (entries : List (Text × FileTree)) :
    textsIn entries = entries.flatMap fun entry => entry.2.texts := by
  induction entries with
  | nil => rw [textsIn, List.flatMap_nil]
  | cons entry rest ih => rw [textsIn, ih, List.flatMap_cons]

/-- **Reordered trees have the same texts**, up to their order. -/
theorem Reordered.texts {first second : FileTree} (reordered : first.Reordered second) :
    first.texts.Perm second.texts := by
  induction reordered with
  | refl tree => exact List.Perm.refl _
  | listed permuted =>
      rw [FileTree.texts, FileTree.texts, textsIn_eq_flatMap, textsIn_eq_flatMap]
      exact permuted.flatMap_right _
  | within before name after _ ih =>
      rw [FileTree.texts, FileTree.texts, textsIn_eq_flatMap, textsIn_eq_flatMap,
        List.flatMap_append, List.flatMap_append, List.flatMap_cons, List.flatMap_cons]
      exact (ih.append_right _).append_left _
  | trans _ _ firstIh secondIh => exact firstIh.trans secondIh

/-! ## Different names -/

/-- Reordering keeps the names of each directory different. -/
theorem Reordered.hasDistinctNames {first second : FileTree}
    (reordered : first.Reordered second) (distinct : first.hasDistinctNames = true) :
    second.hasDistinctNames = true := by
  induction reordered with
  | refl tree => exact distinct
  | listed permuted =>
      rw [FileTree.hasDistinctNames, entriesHaveDistinctNames_iff] at distinct ⊢
      obtain ⟨names, nodes⟩ := distinct
      refine ⟨(permuted.map _).nodup_iff.mp names, fun entry member => ?_⟩
      exact nodes entry (permuted.mem_iff.mpr member)
  | within before name after _ ih =>
      rw [FileTree.hasDistinctNames, entriesHaveDistinctNames_iff, List.map_append,
        List.map_cons, List.forall_mem_append, List.forall_mem_cons] at distinct ⊢
      obtain ⟨names, inFront, node, behind⟩ := distinct
      exact ⟨names, inFront, ih node, behind⟩
  | trans _ _ firstIh secondIh => exact secondIh (firstIh distinct)

/-! ## Looking up -/

/-- **Reordering keeps what lies at a place**, up to reordering. -/
theorem Reordered.at? {first second : FileTree} (reordered : first.Reordered second)
    (distinct : first.hasDistinctNames = true) {place : Place} {node : FileTree}
    (present : first.at? place = some node) :
    ∃ other, second.at? place = some other ∧ node.Reordered other := by
  induction reordered generalizing place node with
  | refl tree => exact ⟨node, present, .refl node⟩
  | @listed entries others permuted =>
      cases place with
      | nil =>
          rw [at?_nil, Option.some.injEq] at present
          subst present
          exact ⟨_, at?_nil _, .listed permuted⟩
      | cons name rest =>
          obtain ⟨child, member, below⟩ := mem_of_at?_cons present
          have different := (Reordered.listed permuted).hasDistinctNames distinct
          rw [FileTree.hasDistinctNames, entriesHaveDistinctNames_iff] at different
          refine ⟨node, ?_, .refl node⟩
          rw [at?_cons_of_mem different.1 (permuted.mem_iff.mp member), below]
  | @within before name child other after reorderedChild ih =>
      cases place with
      | nil =>
          rw [at?_nil, Option.some.injEq] at present
          subst present
          exact ⟨_, at?_nil _, .within before name after reorderedChild⟩
      | cons sought rest =>
          have different :=
            (Reordered.within before name after reorderedChild).hasDistinctNames distinct
          rw [FileTree.hasDistinctNames, entriesHaveDistinctNames_iff] at distinct different
          obtain ⟨found, member, below⟩ := mem_of_at?_cons present
          rcases List.mem_append.mp member with inFront | here
          · refine ⟨node, ?_, .refl node⟩
            rw [at?_cons_of_mem different.1 (List.mem_append_left _ inFront), below]
          · rcases List.mem_cons.mp here with same | behind
            · -- The entry that is reordered: what lies in it is reordered too.
              cases same
              have childDistinct := distinct.2 (name, child)
                (List.mem_append_right _ List.mem_cons_self)
              obtain ⟨moved, presentBelow, nodeReordered⟩ := ih childDistinct below
              refine ⟨moved, ?_, nodeReordered⟩
              rw [at?_cons_of_mem different.1 (List.mem_append_right _ List.mem_cons_self),
                presentBelow]
            · refine ⟨node, ?_, .refl node⟩
              rw [at?_cons_of_mem different.1
                (List.mem_append_right _ (List.mem_cons_of_mem _ behind)), below]
  | trans firstReordered _ firstIh secondIh =>
      obtain ⟨middle, presentThere, nodeReordered⟩ := firstIh distinct present
      obtain ⟨other, presentLast, middleReordered⟩ :=
        secondIh (firstReordered.hasDistinctNames distinct) presentThere
      exact ⟨other, presentLast, nodeReordered.trans middleReordered⟩

/-- What is reordered stays a file with its content, or stays a directory. -/
theorem Reordered.content? {first second : FileTree} (reordered : first.Reordered second) :
    second.content? = first.content? := by
  induction reordered with
  | refl tree => rfl
  | listed _ => rfl
  | within _ _ _ _ _ => rfl
  | trans _ _ firstIh secondIh => rw [secondIh, firstIh]

/-- A reordered tree has the same directories, and something at the same places. -/
theorem Reordered.keeps {first second : FileTree} (reordered : first.Reordered second)
    (distinct : first.hasDistinctNames = true) : first.Keeps second := by
  have same : ∀ place, first.contentAt? place ≠ none →
      second.contentAt? place = first.contentAt? place := by
    intro place given
    obtain ⟨node, present⟩ : ∃ node, first.at? place = some node := by
      rw [contentAt?, ne_eq, Option.map_eq_none_iff] at given
      exact Option.ne_none_iff_exists'.mp given
    obtain ⟨other, presentToo, nodeReordered⟩ := reordered.at? distinct present
    rw [contentAt?, contentAt?, present, presentToo, Option.map_some, Option.map_some,
      nodeReordered.content?]
  refine ⟨fun place isDirectory => ?_, fun place isPresent => ?_⟩
  · rw [same place (by rw [isDirectory]; exact Option.some_ne_none _), isDirectory]
  · rwa [same place isPresent]

end FileTree

/-- **A path leads to the same thing in a reordered tree**, up to reordering. -/
theorem Workspace.find_of_reordered {workspace : Workspace} {tree : FileTree}
    (reordered : workspace.tree.Reordered tree)
    (distinct : workspace.tree.hasDistinctNames = true) {path : Path} {node : FileTree}
    (found : workspace.find path = .ok node) :
    ∃ other, find { workspace with tree } path = .ok other ∧ node.Reordered other := by
  obtain ⟨place, resolved, present⟩ := find_eq_ok_iff.mp found
  obtain ⟨passed, followed⟩ := resolve_eq_ok_iff.mp resolved
  obtain ⟨other, presentToo, nodeReordered⟩ := reordered.at? distinct present
  have resolvedToo : resolve { workspace with tree } path = .ok place :=
    resolve_eq_ok_iff.mpr ⟨passed, foldlM_follow_of_keeps (reordered.keeps distinct) followed⟩
  exact ⟨other, find_eq_ok_iff.mpr ⟨place, resolvedToo, presentToo⟩, nodeReordered⟩

end StateSheet
