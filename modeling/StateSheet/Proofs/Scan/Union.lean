import StateSheet.Proofs.Scan.Selection
import StateSheet.Proofs.Walk.PlainRoot

/-!
# Scans of several globs

A scan of several globs finds what the scans of each of them find together, if the
roots of the globs agree: those that lead the same way are walked alike
(`scan_of_globs_is_union`). Then every glob selects what it selects in the walk from its
own root. That another path with the same components may be scanned in place of a
selected one changes nothing, since it leads to the same file. Plain roots agree, also
if a separator stands at the end of some of them (`RootsAgree.of_plain`).

Of roots that lead the same way only the first is walked from. If another one is written
with a doubled separator, its globs are matched against paths that do not start with it
(`scan_of_globs_loses_doubled_separator`).
-/

set_option autoImplicit false

namespace StateSheet

variable {workspace : Workspace} {ignore : Globs} {patterns : List Text}

/-! ## Roots that agree -/

/-- Are roots of globs walked alike if they lead the same way? -/
def RootsAgree (workspace : Workspace) (patterns : List Text) : Prop :=
  ∀ first ∈ patterns, ∀ second ∈ patterns,
    (Glob.root first).components = (Glob.root second).components →
      walk workspace true (Glob.root first) = walk workspace true (Glob.root second)

instance (workspace : Workspace) (patterns : List Text) :
    Decidable (RootsAgree workspace patterns) :=
  inferInstanceAs (Decidable (∀ first ∈ patterns, ∀ second ∈ patterns,
    (Glob.root first).components = (Glob.root second).components →
      walk workspace true (Glob.root first) = walk workspace true (Glob.root second)))

/-- **Plain roots agree**, if those that lead the same way resolve to the same place or
all fail. -/
theorem RootsAgree.of_plain (wellNamed : workspace.tree.WellNamed)
    (plain : ∀ pattern ∈ patterns, ∃ absolute, PlainRoot absolute (Glob.root pattern))
    (resolved : ∀ first ∈ patterns, ∀ second ∈ patterns,
      (Glob.root first).components = (Glob.root second).components →
        workspace.resolve (Glob.root first) = workspace.resolve (Glob.root second)) :
    RootsAgree workspace patterns := by
  intro first firstMember second secondMember same
  obtain ⟨_, firstPlain⟩ := plain first firstMember
  obtain ⟨_, secondPlain⟩ := plain second secondMember
  exact firstPlain.walk_eq secondPlain wellNamed true same
    (resolved first firstMember second secondMember same)

theorem RootsAgree.singleton (workspace : Workspace) (pattern : Text) :
    RootsAgree workspace [pattern] := by
  intro first firstMember second secondMember _
  rw [List.mem_singleton.mp firstMember, List.mem_singleton.mp secondMember]

/-- The root of a walk leads the same way as those of its globs, and is walked like
them. -/
theorem RootsAgree.walk_root_eq (agree : RootsAgree workspace patterns) {root : Path}
    (walked : root ∈ patternRoots patterns) {pattern : Text}
    (among : pattern ∈ patternsOf root patterns) :
    pattern ∈ patterns ∧ (Glob.root pattern).components = root.components ∧
      walk workspace true (Glob.root pattern) = walk workspace true root := by
  obtain ⟨member, leadsSame⟩ := List.mem_filter.mp among
  have same := of_decide_eq_true leadsSame
  obtain ⟨first, firstMember, rfl⟩ := exists_pattern_of_mem_patternRoots walked
  exact ⟨member, same, agree pattern member first firstMember same⟩

/-- A scanned path is selected by some glob in the walk from the root of that. -/
theorem RootsAgree.mem_selectedPaths (agree : RootsAgree workspace patterns) {paths : List Path}
    (whole : selectedPaths workspace ignore patterns = .ok paths) {path : Path}
    (kept : path ∈ paths) :
    ∃ pattern ∈ patterns, Selects workspace ignore (Glob.root pattern) pattern path := by
  obtain ⟨root, walked, pattern, among, selected⟩ := StateSheet.mem_selectedPaths whole kept
  obtain ⟨member, same, sameWalk⟩ := agree.walk_root_eq walked among
  exact ⟨pattern, member, selected.of_walk_eq same.symm sameWalk.symm⟩

/-- Of every path that a glob selects in the walk from its root, one with the same
components is scanned. -/
theorem RootsAgree.selectedPaths_covers (agree : RootsAgree workspace patterns)
    {paths : List Path} (whole : selectedPaths workspace ignore patterns = .ok paths)
    {pattern : Text} (member : pattern ∈ patterns) {path : Path}
    (selected : Selects workspace ignore (Glob.root pattern) pattern path) :
    ∃ other ∈ paths, other.components = path.components := by
  obtain ⟨root, walked, among⟩ := exists_mem_patternRoots member
  obtain ⟨_, same, sameWalk⟩ := agree.walk_root_eq walked among
  exact StateSheet.selectedPaths_covers whole walked among (selected.of_walk_eq same sameWalk)

/-- **A scan of one glob reads the paths that the glob selects**, and no path in
place of another. -/
theorem mem_selectedPaths_singleton (wellNamed : workspace.tree.WellNamed) {pattern : Text}
    {paths : List Path} (whole : selectedPaths workspace ignore [pattern] = .ok paths)
    (path : Path) :
    path ∈ paths ↔ Selects workspace ignore (Glob.root pattern) pattern path := by
  have ofSelected : ∀ other ∈ paths,
      Selects workspace ignore (Glob.root pattern) pattern other := by
    intro other kept
    obtain ⟨same, member, selected⟩ :=
      (RootsAgree.singleton workspace pattern).mem_selectedPaths whole kept
    rwa [List.mem_singleton.mp member] at selected
  constructor
  · exact ofSelected path
  · intro selected
    have alone := RootsAgree.singleton workspace pattern
    obtain ⟨other, kept, same⟩ := alone.selectedPaths_covers whole List.mem_cons_self selected
    rwa [← walk_components_injective wellNamed (ofSelected other kept).kept.1 selected.kept.1 same]

/-- **Several globs whose roots agree select what each of them selects**, up to paths
with the same components. -/
theorem RootsAgree.selection_union (agree : RootsAgree workspace patterns)
    (wellNamed : workspace.tree.WellNamed) {paths : List Path}
    (whole : selectedPaths workspace ignore patterns = .ok paths) :
    (∀ path ∈ paths, ∃ pattern ∈ patterns, ∀ alone,
        selectedPaths workspace ignore [pattern] = .ok alone → path ∈ alone) ∧
      ∀ pattern ∈ patterns, ∀ alone, selectedPaths workspace ignore [pattern] = .ok alone →
        ∀ path ∈ alone, ∃ other ∈ paths, other.components = path.components := by
  constructor
  · intro path kept
    obtain ⟨pattern, member, selected⟩ := agree.mem_selectedPaths whole kept
    refine ⟨pattern, member, fun alone single => ?_⟩
    exact (mem_selectedPaths_singleton wellNamed single path).mpr selected
  · intro pattern member alone single path kept
    exact agree.selectedPaths_covers whole member
      ((mem_selectedPaths_singleton wellNamed single path).mp kept)

/-! ## The union -/

section

variable {ignored : List Text}

/-- Globs that can be scanned one by one are scanned with the same ignore globs. -/
theorem exists_ignoreGlobs (given : patterns ≠ [])
    (each : ∀ pattern ∈ patterns, ∃ found,
      Findings.ofGlobs workspace [pattern] ignored = .ok found) :
    ∃ ignoreGlobs, Globs.read ignored = .ok ignoreGlobs ∧ ∀ pattern ∈ patterns, ∃ paths found,
      selectedPaths workspace ignoreGlobs [pattern] = .ok paths ∧
        Findings.ofPaths workspace paths = .ok found := by
  obtain ⟨first, firstMember⟩ := List.exists_mem_of_ne_nil patterns given
  obtain ⟨_, firstScanned⟩ := each first firstMember
  obtain ⟨_, ignoreGlobs, _, ignoreRead, _⟩ := Findings.ofGlobs_eq_ok_iff.mp firstScanned
  refine ⟨ignoreGlobs, ignoreRead, fun pattern member => ?_⟩
  obtain ⟨found, scanned⟩ := each pattern member
  obtain ⟨_, otherGlobs, paths, otherRead, selected, pathsScanned⟩ :=
    Findings.ofGlobs_eq_ok_iff.mp scanned
  cases ignoreRead.symm.trans otherRead
  exact ⟨paths, found, selected, pathsScanned⟩

/-- Globs that can be scanned one by one, and whose roots agree, can be scanned
together. -/
theorem RootsAgree.exists_ofGlobs (agree : RootsAgree workspace patterns)
    (wellNamed : workspace.tree.WellNamed) (given : patterns ≠ [])
    (each : ∀ pattern ∈ patterns, ∃ found,
      Findings.ofGlobs workspace [pattern] ignored = .ok found) :
    ∃ found, Findings.ofGlobs workspace patterns ignored = .ok found := by
  obtain ⟨ignoreGlobs, ignoreRead, eachSelected⟩ := exists_ignoreGlobs given each
  obtain ⟨paths, whole⟩ : ∃ paths, selectedPaths workspace ignoreGlobs patterns = .ok paths := by
    refine exists_selectedPaths_iff.mpr fun pattern member => ?_
    obtain ⟨alone, _, selected, _⟩ := eachSelected pattern member
    exact exists_selectedPaths_iff.mp ⟨alone, selected⟩ pattern List.mem_cons_self
  obtain ⟨found, scanned⟩ : ∃ found, Findings.ofPaths workspace paths = .ok found := by
    refine Findings.exists_ofPaths_iff.mpr fun path kept => ?_
    obtain ⟨pattern, member, among⟩ := (agree.selection_union wellNamed whole).1 path kept
    obtain ⟨alone, aloneFound, selected, aloneScanned⟩ := eachSelected pattern member
    exact Findings.exists_ofPaths_iff.mp ⟨aloneFound, aloneScanned⟩ path (among alone selected)
  exact ⟨found,
    Findings.ofGlobs_eq_ok_iff.mpr ⟨given, ignoreGlobs, paths, ignoreRead, whole, scanned⟩⟩

/-- Globs whose roots agree are scanned in the files in which they are one by one. -/
theorem RootsAgree.scans_iff (agree : RootsAgree workspace patterns)
    (wellNamed : workspace.tree.WellNamed) {found : Findings}
    (scanned : Findings.ofGlobs workspace patterns ignored = .ok found) (place : Place) :
    Scans workspace patterns ignored place ↔
      ∃ pattern ∈ patterns, Scans workspace [pattern] ignored place := by
  obtain ⟨_, ignoreGlobs, paths, ignoreRead, whole, pathsScanned⟩ :=
    Findings.ofGlobs_eq_ok_iff.mp scanned
  obtain ⟨fromAlone, covered⟩ := agree.selection_union wellNamed whole
  rw [Scans.of_selected ignoreRead whole]
  constructor
  · rintro ⟨path, kept, resolved⟩
    obtain ⟨pattern, member, among⟩ := fromAlone path kept
    obtain ⟨alone, selected⟩ : ∃ alone, selectedPaths workspace ignoreGlobs [pattern] = .ok alone :=
      exists_selectedPaths_iff.mpr fun other same => by
        rw [List.mem_singleton.mp same]
        exact exists_selectedPaths_iff.mp ⟨paths, whole⟩ pattern member
    exact ⟨pattern, member, ignoreGlobs, alone, ignoreRead, selected, path,
      among alone selected, resolved⟩
  · rintro ⟨pattern, member, otherGlobs, alone, otherRead, selected, path, kept, resolved⟩
    cases ignoreRead.symm.trans otherRead
    obtain ⟨other, otherKept, same⟩ := covered pattern member alone selected path kept
    obtain ⟨otherPlace, _, otherResolved, _⟩ := Findings.present_of_ofPaths pathsScanned otherKept
    have samePlace := Workspace.resolve_unique same.symm resolved otherResolved
    exact ⟨other, otherKept, by rw [samePlace, otherResolved]⟩

/-- **A scan of several globs finds what the scans of each of them find together**, if
the roots of the globs agree: it succeeds if they do, its classes are theirs, and it
reads the files that they read. -/
theorem scan_of_globs_is_union (wellNamed : workspace.tree.WellNamed) (given : patterns ≠ [])
    (agree : RootsAgree workspace patterns) {alone : Text → Findings}
    (each : ∀ pattern ∈ patterns,
      Findings.ofGlobs workspace [pattern] ignored = .ok (alone pattern)) :
    ∃ found, Findings.ofGlobs workspace patterns ignored = .ok found ∧
      (∀ name, name ∈ found.classes ↔ ∃ pattern ∈ patterns, name ∈ (alone pattern).classes) ∧
        ∀ place, Scans workspace patterns ignored place ↔
          ∃ pattern ∈ patterns, Scans workspace [pattern] ignored place := by
  obtain ⟨found, scanned⟩ := agree.exists_ofGlobs wellNamed given fun pattern member =>
    ⟨alone pattern, each pattern member⟩
  have places := agree.scans_iff wellNamed scanned
  refine ⟨found, scanned, fun name => ?_, places⟩
  rw [Findings.mem_classes_iff scanned]
  constructor
  · rintro ⟨place, reached, inFile⟩
    obtain ⟨pattern, member, reachedAlone⟩ := (places place).mp reached
    exact ⟨pattern, member,
      (Findings.mem_classes_iff (each pattern member) name).mpr ⟨place, reachedAlone, inFile⟩⟩
  · rintro ⟨pattern, member, among⟩
    obtain ⟨place, reachedAlone, inFile⟩ :=
      (Findings.mem_classes_iff (each pattern member) name).mp among
    exact ⟨place, (places place).mpr ⟨pattern, member, reachedAlone⟩, inFile⟩

end

/-- Two files with a class each, one of them in a directory below the other, and a
draft. -/
def nestedSources : Workspace :=
  { tree := .directory [("src".toList, .directory
      [("a.html".toList, .file (FileTree.encode "class='ui-open:block'".toList)),
        ("sub".toList, .directory
          [("b.html".toList, .file (FileTree.encode "class='ui-shut:flex'".toList)),
            ("draft.html".toList, .file (FileTree.encode "class='ui-busy:grid'".toList))])])] }

/-- A file named by itself, whose root has no separator at its end, a glob in the same
directory, and a glob in a directory below. What several of them select is found once,
and the draft is ignored. -/
theorem scan_of_globs_is_union_nested_roots :
    ∃ found, Findings.ofGlobs nestedSources
        ["src/a.html".toList, "src/*.html".toList, "src/sub/*.html".toList]
        ["**/draft*".toList] = .ok found ∧
      ∀ name, name ∈ found.classes ↔
        name = "ui-open:block".toList ∨ name = "ui-shut:flex".toList := by
  let patterns := ["src/a.html".toList, "src/*.html".toList, "src/sub/*.html".toList]
  let alone (pattern : Text) : Findings :=
    if pattern = "src/a.html".toList then ⟨["ui-open:block".toList], 1⟩
    else if pattern = "src/*.html".toList then
      ⟨["ui-open:block".toList, "ui-shut:flex".toList], 2⟩
    else ⟨["ui-shut:flex".toList], 1⟩
  have wellNamed : nestedSources.tree.WellNamed := by decide +kernel
  have agree : RootsAgree nestedSources patterns := by decide +kernel
  have evaluated : ∀ pattern ∈ patterns,
      (Findings.ofGlobs nestedSources [pattern] ["**/draft*".toList]).toOption =
        some (alone pattern) := by
    decide +kernel
  have each : ∀ pattern ∈ patterns,
      Findings.ofGlobs nestedSources [pattern] ["**/draft*".toList] = .ok (alone pattern) :=
    fun pattern member => eq_ok_of_toOption (evaluated pattern member)
  obtain ⟨found, scanned, classes, _⟩ :=
    scan_of_globs_is_union wellNamed (List.cons_ne_nil _ _) agree each
  refine ⟨found, scanned, fun name => ?_⟩
  have single : (alone "src/a.html".toList).classes = ["ui-open:block".toList] := by decide
  have outer : (alone "src/*.html".toList).classes =
      ["ui-open:block".toList, "ui-shut:flex".toList] := by decide
  have inner : (alone "src/sub/*.html".toList).classes = ["ui-shut:flex".toList] := by decide
  simp only [classes, List.mem_cons, List.not_mem_nil, or_false, exists_eq_or_imp,
    exists_eq_left, single, outer, inner, or_assoc, or_self, or_self_left]

/-- **A doubled separator in one root loses files to another root.** Alone, the second
glob selects the file; together with the first one, which selects nothing, it does
not. -/
theorem scan_of_globs_loses_doubled_separator :
    let workspace : Workspace :=
      { tree := .directory [("src".toList, .directory
          [("a.html".toList, .file (FileTree.encode "<p class=\"ui-open:block\">".toList))])] }
    (Findings.ofGlobs workspace ["src//*.html".toList] []).toOption =
        some ⟨["ui-open:block".toList], 1⟩ ∧
      (Findings.ofGlobs workspace ["src/*.txt".toList, "src//*.html".toList] []).toOption =
        some ⟨[], 0⟩ := by
  decide +kernel

end StateSheet
