import StateSheet.Proofs.Scan.Found
import StateSheet.Proofs.Text.Distinct

/-!
# Scans from one root

Globs are scanned in two ways: in one walk from a given root, and each from its own root. If
the roots of all globs lead the same way, the second scan has one walk as well, from the root
of the first glob as that is spelled (`patternRoots_of_common`), with all globs
(`patternsOf_of_common`), and no path of that walk is dropped for another one
(`selectedPaths_eq_ok_iff_of_common`). So it finds what the first scan finds from the root of
the first glob (`scan_from_one_root_is_one_walk`).
-/

set_option autoImplicit false

namespace StateSheet

variable {workspace : Workspace} {patterns ignored : List Text}

/-! ## Scans in one walk -/

/-- A scan in one walk is the scan of the paths that the globs select in it. -/
theorem Findings.ofWalk_eq_ok_iff {options : WalkOptions} {found : Findings} :
    Findings.ofWalk workspace options patterns ignored = .ok found ↔
      patterns ≠ [] ∧ ∃ globs ignoreGlobs, Globs.read patterns = .ok globs ∧
        Globs.read ignored = .ok ignoreGlobs ∧
          Findings.ofPaths workspace (selectedFrom workspace options globs ignoreGlobs) =
            .ok found := by
  unfold ofWalk
  by_cases empty : patterns = []
  · simp only [empty, if_true, ne_eq, not_true_eq_false, false_and, iff_false]
    rintro ⟨⟩
  · rw [if_neg empty]
    simp only [← readGlobs_eq_ok_iff]
    cases readGlobs patterns with
    | error fault => simp [bind, Except.bind]
    | ok globs =>
        cases readGlobs ignored with
        | error fault => simp [bind, Except.bind]
        | ok ignoreGlobs => simp [bind, Except.bind, empty]

/-- A scan in one walk succeeds exactly when there are globs, and they and the ignore globs can
be read, if the paths that the walk comes to are found. -/
theorem Findings.exists_ofWalk_iff {root : Path} (finds : WalkFinds workspace root) :
    (∃ found, Findings.ofWalk workspace { root } patterns ignored = .ok found) ↔
      patterns ≠ [] ∧ (∀ pattern ∈ patterns, ∃ glob, Globs.IsRead pattern glob) ∧
        ∀ pattern ∈ ignored, ∃ glob, Globs.IsRead pattern glob := by
  simp only [ofWalk_eq_ok_iff, ← Globs.exists_read_iff]
  constructor
  · rintro ⟨_, given, globs, ignoreGlobs, read, ignoreRead, _⟩
    exact ⟨given, ⟨globs, read⟩, ignoreGlobs, ignoreRead⟩
  · rintro ⟨given, ⟨globs, read⟩, ignoreGlobs, ignoreRead⟩
    obtain ⟨found, scanned⟩ : ∃ found, Findings.ofPaths workspace
        (selectedFrom workspace { root } globs ignoreGlobs) = .ok found := by
      refine exists_ofPaths_iff.mpr fun path selected => ?_
      obtain ⟨node, present⟩ := finds path (List.mem_filter.mp selected).1
      exact ⟨_, textsAt_of_found present⟩
    exact ⟨found, given, globs, ignoreGlobs, read, ignoreRead, scanned⟩

/-! ## Roots that lead the same way -/

section

variable {first : Text} {others : List Text}
  (common : ∀ pattern ∈ others, (Glob.root pattern).components = (Glob.root first).components)

include common

/-- Of roots that lead the same way the first is walked from. -/
theorem patternRoots_of_common : patternRoots (first :: others) = [Glob.root first] := by
  have roots : ∀ root ∈ others.map Glob.root, root.components = (Glob.root first).components :=
    List.forall_mem_map.mpr common
  rw [patternRoots, List.map_cons, distinctBy_cons_of_common roots, List.mergeSort_singleton]

/-- All globs are matched in the walk from it. -/
theorem patternsOf_of_common :
    patternsOf (Glob.root first) (first :: others) = first :: others := by
  refine List.filter_eq_self.mpr fun pattern member => decide_eq_true ?_
  rcases List.mem_cons.mp member with rfl | later
  · rfl
  · exact common pattern later

/-- **What globs select is what they select in the walk from the root of the first**, path by
path: the walk comes to no file twice, so none of its paths repeats another. -/
theorem selectedPaths_eq_ok_iff_of_common (wellNamed : workspace.tree.WellNamed)
    (distinct : workspace.tree.hasDistinctNames = true) {ignore : Globs} {paths : List Path} :
    selectedPaths workspace ignore (first :: others) = .ok paths ↔
      ∃ globs, Globs.read (first :: others) = .ok globs ∧
        paths = selectedFrom workspace { root := Glob.root first } globs ignore := by
  have once (globs : Globs) : distinctBy Path.components
      (selectedFrom workspace { root := Glob.root first } globs ignore) =
        selectedFrom workspace { root := Glob.root first } globs ignore := by
    apply distinctBy_eq_self
    refine List.Nodup.sublist (List.filter_sublist.map Path.components) ?_
    exact nodup_components_walk wellNamed distinct true (Glob.root first)
  simp only [selectedPaths_eq_ok_iff, patternRoots_of_common common, mapM_eq_ok_iff,
    List.forall₂_cons_left_iff, List.forall₂_nil_left_iff, selectedAt_eq_ok_iff,
    patternsOf_of_common common]
  constructor
  · rintro ⟨_, ⟨_, _, ⟨globs, read, rfl⟩, rfl, rfl⟩, rfl⟩
    refine ⟨globs, read, ?_⟩
    rw [List.flatten_singleton, once]
  · rintro ⟨globs, read, rfl⟩
    refine ⟨_, ⟨_, _, ⟨globs, read, rfl⟩, rfl, rfl⟩, ?_⟩
    rw [List.flatten_singleton, once]

end

/-- **Globs whose roots lead the same way are scanned as in one walk from the root of the
first.** Both scans find the same, and if the paths that the walk comes to are found, both
succeed exactly when all globs and all ignore globs can be read. -/
theorem scan_from_one_root_is_one_walk (wellNamed : workspace.tree.WellNamed)
    (distinct : workspace.tree.hasDistinctNames = true) {first : Text} {others : List Text}
    (common : ∀ pattern ∈ others,
      (Glob.root pattern).components = (Glob.root first).components) (ignored : List Text) :
    let eachFromItsRoot := Findings.ofGlobs workspace (first :: others) ignored
    let inOneWalk :=
      Findings.ofWalk workspace { root := Glob.root first } (first :: others) ignored
    (∀ found, eachFromItsRoot = .ok found ↔ inOneWalk = .ok found) ∧
      (WalkFinds workspace (Glob.root first) →
        ((∃ found, eachFromItsRoot = .ok found) ↔
          ∀ pattern ∈ first :: others ++ ignored, ∃ glob, Globs.IsRead pattern glob) ∧
        ((∃ found, inOneWalk = .ok found) ↔
          ∀ pattern ∈ first :: others ++ ignored, ∃ glob, Globs.IsRead pattern glob)) := by
  intro eachFromItsRoot inOneWalk
  have given : first :: others ≠ [] := List.cons_ne_nil first others
  have same : ∀ found, eachFromItsRoot = .ok found ↔ inOneWalk = .ok found := by
    intro found
    rw [Findings.ofGlobs_eq_ok_iff, Findings.ofWalk_eq_ok_iff]
    simp only [selectedPaths_eq_ok_iff_of_common common wellNamed distinct]
    constructor
    · rintro ⟨_, ignoreGlobs, _, ignoreRead, ⟨globs, read, rfl⟩, scanned⟩
      exact ⟨given, globs, ignoreGlobs, read, ignoreRead, scanned⟩
    · rintro ⟨_, globs, ignoreGlobs, read, ignoreRead, scanned⟩
      exact ⟨given, ignoreGlobs, _, ignoreRead, ⟨globs, read, rfl⟩, scanned⟩
  refine ⟨same, fun finds => ?_⟩
  have valid : (∃ found, inOneWalk = .ok found) ↔
      ∀ pattern ∈ first :: others ++ ignored, ∃ glob, Globs.IsRead pattern glob := by
    rw [Findings.exists_ofWalk_iff finds, List.forall_mem_append, and_iff_right given]
  exact ⟨(exists_congr same).trans valid, valid⟩

/-- Three globs whose roots are spelled in three ways, and a draft that is ignored. The files
are walked for as the first glob spells the root. With an ignore glob that cannot be read,
neither scan succeeds. -/
theorem scan_from_one_root_is_one_walk_spelled_apart :
    let workspace : Workspace :=
      { tree := .directory [("src".toList, .directory
          [("a.html".toList, .file (FileTree.encode "class='ui-open:block'".toList)),
            ("b.vue".toList, .file (FileTree.encode "class='ui-shut:flex'".toList)),
            ("draft.html".toList, .file (FileTree.encode "class='ui-busy:grid'".toList))])] }
    let patterns := ["src/*.html".toList, "src/b.vue".toList, "src/.//*.html".toList]
    Findings.ofGlobs workspace patterns ["**/draft*".toList] =
        .ok ⟨["ui-open:block".toList, "ui-shut:flex".toList], 2⟩ ∧
      ¬ ∃ found, Findings.ofGlobs workspace patterns ["[".toList] = .ok found := by
  intro workspace patterns
  have common : ∀ pattern ∈ ["src/b.vue".toList, "src/.//*.html".toList],
      (Glob.root pattern).components = (Glob.root "src/*.html".toList).components := by
    decide +kernel
  have wellNamed : workspace.tree.WellNamed := by decide +kernel
  have distinct : workspace.tree.hasDistinctNames = true := by decide +kernel
  have scanned : (Findings.ofWalk workspace { root := Glob.root "src/*.html".toList } patterns
      ["**/draft*".toList]).toOption =
        some ⟨["ui-open:block".toList, "ui-shut:flex".toList], 2⟩ := by decide +kernel
  have finds : WalkFinds workspace (Glob.root "src/*.html".toList) :=
    WalkFinds.of_fits distinct (by decide +kernel)
  have unreadable : (Globs.read ["[".toList]).toOption = none := by decide +kernel
  obtain ⟨same, _⟩ :=
    scan_from_one_root_is_one_walk wellNamed distinct common ["**/draft*".toList]
  obtain ⟨_, succeed⟩ := scan_from_one_root_is_one_walk wellNamed distinct common ["[".toList]
  refine ⟨(same _).mpr (eq_ok_of_toOption scanned), fun someFound => ?_⟩
  obtain ⟨glob, read⟩ := (succeed finds).1.mp someFound "[".toList (List.mem_append_right _
    List.mem_cons_self)
  rw [Globs.IsRead] at read
  rw [read] at unreadable
  cases unreadable

end StateSheet
