import Mathlib.Data.List.Perm.Basic
import StateSheet.Proofs.FileTree.Reordered
import StateSheet.Proofs.Scan.Selection
import StateSheet.Proofs.Stylesheet.Generation

/-!
# Scans in another order

The order in which paths are given and in which directories list their entries decides where
a class is first seen, and which of its occurrences are dropped. It does not decide which texts
are read (`texts_of_reordered`), nor, therefore, which classes are found
(`Findings.classes_perm`). And the stylesheet of a class list does not depend on its order, so
what is generated is the same text with the same counts (`generation_keeps_under_reordering`).
-/

set_option autoImplicit false

namespace StateSheet

variable {workspace : Workspace} {tree : FileTree} {paths others : List Path}

/-! ## Texts -/

/-- What lies at a path has the same texts in a reordered tree, up to their order. -/
theorem textsAt_of_reordered (reordered : workspace.tree.Reordered tree)
    (distinct : workspace.tree.hasDistinctNames = true) {path : Path} {texts : List Text}
    (read : textsAt workspace path = .ok texts) :
    ∃ moved, textsAt { workspace with tree } path = .ok moved ∧ texts.Perm moved := by
  unfold textsAt at read
  split at read
  · cases read
  · rename_i node found
    cases read
    obtain ⟨other, foundToo, nodeReordered⟩ :=
      Workspace.find_of_reordered reordered distinct found
    exact ⟨other.texts, textsAt_of_found foundToo, nodeReordered.texts⟩

/-- **The same texts are read** from the same paths of a reordered tree, in whatever order the
paths are given. -/
theorem texts_of_reordered (reordered : workspace.tree.Reordered tree)
    (distinct : workspace.tree.hasDistinctNames = true) (permuted : paths.Perm others)
    {texts : List (List Text)} (read : paths.mapM (textsAt workspace) = .ok texts) :
    ∃ moved, others.mapM (textsAt { workspace with tree }) = .ok moved ∧
      texts.flatten.Perm moved.flatten := by
  -- First the paths change places, then the texts at each path do.
  obtain ⟨between, pairedThere, textsPermuted⟩ :=
    List.perm_comp_forall₂ permuted.symm (mapM_eq_ok_iff.mp read)
  have eachMoved : ∃ moved, List.Forall₂ (fun path texts =>
      textsAt { workspace with tree } path = .ok texts) others moved ∧
        List.Forall₂ List.Perm between moved := by
    clear read textsPermuted permuted
    induction pairedThere with
    | nil => exact ⟨[], .nil, .nil⟩
    | cons first _ ih =>
        obtain ⟨more, restRead, restPermuted⟩ := ih
        obtain ⟨moved, firstRead, firstPermuted⟩ :=
          textsAt_of_reordered reordered distinct first
        exact ⟨moved :: more, .cons firstRead restRead, .cons firstPermuted restPermuted⟩
  obtain ⟨moved, readThere, eachPermuted⟩ := eachMoved
  refine ⟨moved, mapM_eq_ok_iff.mpr readThere, ?_⟩
  exact textsPermuted.symm.flatten.trans (List.Perm.flatten_congr eachPermuted)

/-! ## Findings -/

/-- Lists of the same members have the same first occurrences, up to their order. -/
theorem distinct_perm {first second : List Text}
    (same : ∀ member, member ∈ first ↔ member ∈ second) :
    (distinct first).Perm (distinct second) := by
  refine (List.perm_ext_iff_of_nodup (nodup_distinct first) (nodup_distinct second)).mpr
    fun member => ?_
  rw [mem_distinct_iff, mem_distinct_iff, same]

/-- **The same paths of a reordered tree have the same classes**, up to their order, and the
same number of texts. -/
theorem Findings.ofPaths_of_reordered (reordered : workspace.tree.Reordered tree)
    (distinct : workspace.tree.hasDistinctNames = true) (permuted : paths.Perm others)
    {found : Findings} (scanned : Findings.ofPaths workspace paths = .ok found) :
    ∃ other, Findings.ofPaths { workspace with tree } others = .ok other ∧
      other.fileCount = found.fileCount ∧ found.classes.Perm other.classes := by
  obtain ⟨texts, read, rfl⟩ := ofPaths_eq_ok_iff.mp scanned
  obtain ⟨moved, readThere, textsPermuted⟩ :=
    texts_of_reordered reordered distinct permuted read
  refine ⟨_, ofPaths_eq_ok_iff.mpr ⟨moved, readThere, rfl⟩, textsPermuted.length_eq.symm, ?_⟩
  apply distinct_perm
  intro className
  exact (textsPermuted.flatMap_right Candidate.extract).mem_iff

/-- **The order of files makes no difference to what is generated.** If paths that lead
somewhere are scanned in another order, in a tree whose directories list their entries in
another order, both scans succeed, read as many texts and find the same classes; and from both
class lists any settings generate the same text, byte for byte, with the same counts. -/
theorem generation_keeps_under_reordering (distinct : workspace.tree.hasDistinctNames = true)
    (reordered : workspace.tree.Reordered tree) (permuted : paths.Perm others)
    (present : ∀ path ∈ paths, ∃ node, workspace.find path = .ok node) :
    ∃ found other, Findings.ofPaths workspace paths = .ok found ∧
      Findings.ofPaths { workspace with tree } others = .ok other ∧
      other.fileCount = found.fileCount ∧
      (∀ className, className ∈ found.classes ↔ className ∈ other.classes) ∧
      ∀ settings,
        let first := Generation.ofClasses settings found.classes
        let second := Generation.ofClasses settings other.classes
        first.css = second.css ∧ first.ruleCount = second.ruleCount ∧
          first.skipped = second.skipped := by
  have readable : ∀ path ∈ paths, ∃ texts, textsAt workspace path = .ok texts := by
    intro path member
    obtain ⟨node, found⟩ := present path member
    exact ⟨_, textsAt_of_found found⟩
  obtain ⟨found, scanned⟩ := Findings.exists_ofPaths_iff.mpr readable
  obtain ⟨other, scannedToo, count, classes⟩ :=
    Findings.ofPaths_of_reordered reordered distinct permuted scanned
  refine ⟨found, other, scanned, scannedToo, count, fun _ => classes.mem_iff, ?_⟩
  intro settings first second
  have sheets := Stylesheet.ofClasses_perm settings.utilities.extended classes
  have css : first.css = second.css :=
    congrArg (Stylesheet.render (.ofMinify settings.minify)) sheets
  exact ⟨css, congrArg Stylesheet.ruleCount sheets, congrArg Stylesheet.skipped sheets⟩

/-- Three files, two of them in one directory. Both directories list their entries the other way
round, and so are the paths given: the class lists differ, the stylesheets do not. -/
theorem generation_keeps_under_reordering_nested :
    let page (className : String) : FileTree :=
      .file (FileTree.encode ("class='".toList ++ className.toList ++ "'".toList))
    let workspace : Workspace :=
      { tree := .directory [("a".toList, .directory [("x.html".toList, page "ui-open:block"),
          ("y.html".toList, page "card")]), ("b.html".toList, page "ui-shut:flex")] }
    let tree : FileTree :=
      .directory [("b.html".toList, page "ui-shut:flex"), ("a".toList, .directory
        [("y.html".toList, page "card"), ("x.html".toList, page "ui-open:block")])]
    let paths : List Path := [⟨"a".toList⟩, ⟨"b.html".toList⟩]
    ∃ found other, Findings.ofPaths workspace paths = .ok found ∧
      Findings.ofPaths { workspace with tree } paths.reverse = .ok other ∧
      found.classes ≠ other.classes ∧
      ∀ settings, (Generation.ofClasses settings found.classes).css =
        (Generation.ofClasses settings other.classes).css := by
  intro page workspace tree paths
  have reordered : workspace.tree.Reordered tree :=
    (FileTree.Reordered.within [] "a".toList _ (.listed (List.Perm.swap _ _ []))).trans
      (.listed (List.Perm.swap _ _ []))
  have present : ∀ path ∈ paths, ∃ node, workspace.find path = .ok node := by
    intro path member
    simp only [paths, List.mem_cons, List.not_mem_nil, or_false] at member
    rcases member with rfl | rfl
    · exact ⟨_, rfl⟩
    · exact ⟨_, rfl⟩
  obtain ⟨found, other, scanned, scannedToo, -, -, same⟩ :=
    generation_keeps_under_reordering (by decide) reordered paths.reverse_perm.symm present
  have first : (Findings.ofPaths workspace paths).toOption.map Findings.classes =
      some ["ui-open:block".toList, "card".toList, "ui-shut:flex".toList] := by decide +kernel
  have second : (Findings.ofPaths { workspace with tree } paths.reverse).toOption.map
      Findings.classes = some ["ui-shut:flex".toList, "card".toList, "ui-open:block".toList] := by
    decide +kernel
  rw [scanned, Except.toOption, Option.map_some, Option.some.injEq] at first
  rw [scannedToo, Except.toOption, Option.map_some, Option.some.injEq] at second
  refine ⟨found, other, scanned, scannedToo, ?_, fun settings => (same settings).1⟩
  rw [first, second]
  decide

end StateSheet
