import Mathlib.Data.List.Perm.Subperm
import Mathlib.Data.List.Flatten
import StateSheet.Proofs.Scan.Found
import StateSheet.Proofs.Scan.Once

/-!
# Scans with more ignore globs

A set of ignore globs matches what one of them matches, so it keeps out what any part of it
keeps out (`matchesFrom_mono`), and a glob selects nothing that it does not select with fewer
ignore globs (`Selects.mono`). Which of the paths with the same components is collected may
change, since an ignore glob may match one of their spellings only. But no components are
collected that are not collected with fewer ignore globs (`Collects.subperm`).

The texts that a scan reads at a path are told by the components of the path
(`eq_textsAlong`). So a scan with more ignore globs reads some of the texts
(`Findings.ofPaths_of_subperm`), finds some of the classes and counts no more files
(`Findings.ofGlobs_mono`). Ignore globs in another order, or some of them repeated, make no
difference (`Findings.ofGlobs_congr`).
-/

set_option autoImplicit false

namespace StateSheet

variable {workspace : Workspace} {patterns ignored more : List Text}

/-! ## Matching and selecting -/

section

variable {few many : Globs} (fewRead : Globs.read ignored = .ok few)
  (manyRead : Globs.read more = .ok many)

include fewRead manyRead

theorem matchesFrom_mono (fewer : ignored ⊆ more) {root path : Path}
    (matched : matchesFrom root few path = true) : matchesFrom root many path = true := by
  rw [matchesFrom_iff_of_read fewRead] at matched
  obtain ⟨pattern, member, matchedAlone⟩ := matched
  exact (matchesFrom_iff_of_read manyRead root path).mpr ⟨pattern, fewer member, matchedAlone⟩

/-- What a glob selects with more ignore globs it selects with fewer. -/
theorem Selects.mono (fewer : ignored ⊆ more) {root path : Path} {pattern : Text}
    (selects : Selects workspace many root pattern path) :
    Selects workspace few root pattern path := by
  obtain ⟨glob, read, member⟩ := selects
  refine ⟨glob, read, ?_⟩
  simp only [selectedFrom, List.mem_filter, Bool.and_eq_true, Bool.not_eq_true',
    ← Bool.not_eq_true] at member ⊢
  obtain ⟨walked, ⟨matched, notIgnored⟩, notSkipped⟩ := member
  exact ⟨walked, ⟨matched, mt (matchesFrom_mono fewRead manyRead fewer) notIgnored⟩, notSkipped⟩

/-- Ignore globs in another order, or some of them repeated, leave the same paths selected. -/
theorem selectedFrom_congr (fewer : ignored ⊆ more) (noMore : more ⊆ ignored)
    (options : WalkOptions) (globs : Globs) :
    selectedFrom workspace options globs few = selectedFrom workspace options globs many := by
  have same (path : Path) :
      matchesFrom options.root few path = matchesFrom options.root many path :=
    Bool.eq_iff_iff.mpr ⟨matchesFrom_mono fewRead manyRead fewer,
      matchesFrom_mono manyRead fewRead noMore⟩
  simp only [selectedFrom, same]

end

/-! ## Collecting -/

/-- **With more ignore globs no other components are collected**, and none of them twice. -/
theorem Collects.subperm {paths kept : List Path} (fewer : ignored ⊆ more)
    (collects : Collects workspace patterns ignored paths)
    (collectsLess : Collects workspace patterns more kept) :
    (kept.map Path.components).Subperm (paths.map Path.components) := by
  obtain ⟨few, fewRead, whole⟩ := collects
  obtain ⟨many, manyRead, part⟩ := collectsLess
  refine (nodup_components_selectedPaths part).subperm fun components member => ?_
  obtain ⟨path, among, rfl⟩ := List.mem_map.mp member
  obtain ⟨root, walked, pattern, ofRoot, selects⟩ := mem_selectedPaths part among
  obtain ⟨other, otherAmong, same⟩ :=
    selectedPaths_covers whole walked ofRoot (selects.mono fewRead manyRead fewer)
  exact List.mem_map.mpr ⟨other, otherAmong, same⟩

/-! ## Reading -/

/-- The texts at and below the place that components lead to from the working directory. -/
def textsAlong (workspace : Workspace) (components : List Path.Component) : List Text :=
  ((workspace.tree.at? (components.foldl Path.Component.lead workspace.directory)).map
    FileTree.texts).getD []

/-- The texts that are read at a path are told by its components. -/
theorem eq_textsAlong {path : Path} {texts : List Text}
    (read : textsAt workspace path = .ok texts) :
    texts = textsAlong workspace path.components := by
  obtain ⟨place, node, resolved, present, rfl⟩ := textsAt_eq_ok_iff.mp read
  rw [textsAlong, ← Workspace.place_of_resolve resolved, present]
  rfl

theorem flatten_eq_flatMap_textsAlong {paths : List Path} {texts : List (List Text)}
    (read : paths.mapM (textsAt workspace) = .ok texts) :
    texts.flatten = (paths.map Path.components).flatMap (textsAlong workspace) := by
  have paired := mapM_eq_ok_iff.mp read
  clear read
  induction paired with
  | nil => rfl
  | cons first _ ih =>
      rw [List.flatten_cons, List.map_cons, List.flatMap_cons, ih, eq_textsAlong first]

/-- **Fewer components lead to fewer texts**: the classes of a scan are among those of a scan
whose paths have the same components and further ones, and it counts no more files. -/
theorem Findings.ofPaths_of_subperm {paths kept : List Path}
    (among : (kept.map Path.components).Subperm (paths.map Path.components))
    {found left : Findings} (scanned : Findings.ofPaths workspace paths = .ok found)
    (scannedLess : Findings.ofPaths workspace kept = .ok left) :
    left.classes ⊆ found.classes ∧ left.fileCount ≤ found.fileCount := by
  obtain ⟨texts, read, rfl⟩ := ofPaths_eq_ok_iff.mp scanned
  obtain ⟨fewerTexts, readLess, rfl⟩ := ofPaths_eq_ok_iff.mp scannedLess
  obtain ⟨permuted, reordered, sublist⟩ := among
  have fewer : fewerTexts.flatten.Subperm texts.flatten := by
    rw [flatten_eq_flatMap_textsAlong read, flatten_eq_flatMap_textsAlong readLess]
    exact ⟨_, reordered.flatMap fun _ _ => List.Perm.refl _, sublist.flatMap _⟩
  refine ⟨fun className member => ?_, fewer.length_le⟩
  rw [mem_distinct_iff, List.mem_flatMap] at member ⊢
  obtain ⟨text, textMember, candidate⟩ := member
  exact ⟨text, fewer.subset textMember, candidate⟩

/-! ## Scans of globs -/

/-- **More ignore globs leave fewer classes and fewer files.** -/
theorem Findings.ofGlobs_mono (fewer : ignored ⊆ more) {found left : Findings}
    (scanned : Findings.ofGlobs workspace patterns ignored = .ok found)
    (scannedLess : Findings.ofGlobs workspace patterns more = .ok left) :
    left.classes ⊆ found.classes ∧ left.fileCount ≤ found.fileCount := by
  obtain ⟨_, few, paths, fewRead, selected, read⟩ := ofGlobs_eq_ok_iff.mp scanned
  obtain ⟨_, many, kept, manyRead, selectedLess, readLess⟩ := ofGlobs_eq_ok_iff.mp scannedLess
  have collects : Collects workspace patterns ignored paths := ⟨few, fewRead, selected⟩
  have collectsLess : Collects workspace patterns more kept := ⟨many, manyRead, selectedLess⟩
  exact ofPaths_of_subperm (collects.subperm fewer collectsLess) read readLess

/-- **Neither the order nor the repetition of ignore globs makes a difference.** -/
theorem Findings.ofGlobs_congr
    (ignoredValid : ∀ pattern ∈ ignored, ∃ glob, Globs.IsRead pattern glob)
    (fewer : ignored ⊆ more) (noMore : more ⊆ ignored) :
    Findings.ofGlobs workspace patterns more = Findings.ofGlobs workspace patterns ignored := by
  obtain ⟨few, fewRead⟩ := Globs.exists_read_iff.mpr ignoredValid
  obtain ⟨many, manyRead⟩ := Globs.exists_read_iff.mpr fun pattern member =>
    ignoredValid pattern (noMore member)
  have same : selectedPaths workspace many patterns = selectedPaths workspace few patterns := by
    simp only [selectedPaths, selectedFrom_congr fewRead manyRead fewer noMore]
  simp only [ofGlobs, readGlobs_eq_ok_iff.mpr fewRead, readGlobs_eq_ok_iff.mpr manyRead, same,
    bind, Except.bind]

end StateSheet
