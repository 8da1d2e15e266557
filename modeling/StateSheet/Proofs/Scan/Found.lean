import StateSheet.Proofs.Scan.Pass
import StateSheet.Proofs.Walk

/-!
# Scans that find what they walk to

A scan looks up the paths that its walks come to. What a walk comes to is a file of the tree,
so its path is found, unless a name or a path is too long to be followed
(`WalkFinds.of_fits`). Where all walked paths are found, a scan of globs succeeds exactly when
the globs and the ignore globs can be read (`Findings.exists_ofGlobs_iff`).
-/

set_option autoImplicit false

namespace StateSheet

variable {workspace : Workspace}

/-! ## Walked paths -/

/-- Are all paths found that a walk from a root comes to? -/
def WalkFinds (workspace : Workspace) (root : Path) : Prop :=
  ∀ path ∈ walk workspace true root, ∃ node, workspace.find path = .ok node

namespace Workspace

/-- An entry of a directory that fits has a name that a directory can have and a path that is
short enough, and what is below it fits. -/
theorem fits_of_mem {path : Path} {entries : List (Text × FileTree)}
    (fit : entriesFit path entries = true) {name : Text} {node : FileTree}
    (member : (name, node) ∈ entries) :
    Path.IsName name ∧ (Text.bytes name).length ≤ nameLimit ∧
      (check (path.join name)).isOk = true ∧ fits (path.join name) node = true := by
  induction entries with
  | nil => cases member
  | cons entry rest ih =>
      rw [entriesFit, Bool.and_eq_true, Bool.and_eq_true, Bool.and_eq_true,
        decide_eq_true_eq] at fit
      obtain ⟨⟨⟨⟨proper, short⟩, passed⟩, fitsBelow⟩, restFit⟩ := fit
      rcases List.mem_cons.mp member with rfl | later
      · exact ⟨proper, short, passed, fitsBelow⟩
      · exact ih restFit later

/-- **A file below a path that is found is found**, if everything below the path fits. -/
theorem resolve_joinAll (distinct : workspace.tree.hasDistinctNames = true) {path : Path}
    {place : Place} {node : FileTree} (resolved : workspace.resolve path = .ok place)
    (present : workspace.tree.at? place = some node) (fit : fits path node = true)
    {names : Place} {content : ByteArray} (isFile : node.at? names = some (.file content)) :
    workspace.resolve (path.joinAll names) = .ok (place ++ names) := by
  induction names generalizing path place node with
  | nil => rwa [List.append_nil]
  | cons name rest ih =>
      cases node with
      | file other => cases isFile
      | directory entries =>
          obtain ⟨child, member, below⟩ := FileTree.mem_of_at?_cons isFile
          rw [fits] at fit
          obtain ⟨proper, short, passed, fitsBelow⟩ := fits_of_mem fit member
          obtain ⟨entered, presentBelow⟩ := resolve_entry resolved present
            (FileTree.hasDistinctNames_of_at? distinct present) member proper short passed
          rw [← List.singleton_append, ← List.append_assoc]
          exact ih entered presentBelow fitsBelow below

end Workspace

/-- **Walked paths are found**, if everything below the root of the walk fits. -/
theorem WalkFinds.of_fits (distinct : workspace.tree.hasDistinctNames = true) {root : Path}
    (fit : (workspace.find root).toOption.all (Workspace.fits root) = true) :
    WalkFinds workspace root := by
  intro path walked
  obtain ⟨base, names, content, resolved, member, rfl, _⟩ := mem_walk walked
  have isFile := FileTree.at?_of_mem_files distinct member
  obtain ⟨node, present, below⟩ : ∃ node, workspace.tree.at? base = some node ∧
      node.at? names = some (.file content) := by
    rwa [FileTree.at?_append, Option.bind_eq_some_iff] at isFile
  rw [Workspace.find_eq_ok_iff.mpr ⟨base, resolved, present⟩] at fit
  exact ⟨_, Workspace.find_eq_ok_iff.mpr
    ⟨_, Workspace.resolve_joinAll distinct resolved present fit below, isFile⟩⟩

/-! ## Scans of globs -/

/-- **A scan of globs succeeds exactly when there are globs, and they and the ignore globs can
be read**, if the paths that its walks come to are found. -/
theorem Findings.exists_ofGlobs_iff {patterns ignored : List Text}
    (finds : ∀ root ∈ patternRoots patterns, WalkFinds workspace root) :
    (∃ found, Findings.ofGlobs workspace patterns ignored = .ok found) ↔
      patterns ≠ [] ∧ (∀ pattern ∈ patterns, ∃ glob, Globs.IsRead pattern glob) ∧
        ∀ pattern ∈ ignored, ∃ glob, Globs.IsRead pattern glob := by
  constructor
  · rintro ⟨_, scanned⟩
    obtain ⟨given, ignoreGlobs, paths, ignoreRead, selected, _⟩ := ofGlobs_eq_ok_iff.mp scanned
    exact ⟨given, exists_collects_iff.mp ⟨paths, ignoreGlobs, ignoreRead, selected⟩⟩
  · rintro ⟨given, valid⟩
    obtain ⟨paths, ignoreGlobs, ignoreRead, selected⟩ :
      ∃ paths, Collects workspace patterns ignored paths := exists_collects_iff.mpr valid
    obtain ⟨found, scanned⟩ : ∃ found, Findings.ofPaths workspace paths = .ok found := by
      refine exists_ofPaths_iff.mpr fun path kept => ?_
      obtain ⟨root, walkedRoot, _, _, selects⟩ := mem_selectedPaths selected kept
      obtain ⟨node, present⟩ := finds root walkedRoot path selects.kept.1
      exact ⟨_, textsAt_of_found present⟩
    exact ⟨found, ofGlobs_eq_ok_iff.mpr
      ⟨given, ignoreGlobs, paths, ignoreRead, selected, scanned⟩⟩

end StateSheet
