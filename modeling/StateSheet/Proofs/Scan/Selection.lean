import StateSheet.Proofs.Glob.Sets
import StateSheet.Scan

/-!
# Paths selected for a scan

A scan of globs reads the texts of the selected paths (`ofGlobs_eq_ok_iff`), and its
classes are the candidates in the files that these lead to (`mem_classes_iff`). Paths are
selected whenever all globs can be read (`exists_collects_iff`).

Which paths a glob selects in a walk does not depend on the other globs of the walk
(`mem_selectedFrom_iff`). Of the selected paths with the same components one is kept
(`mem_selectedPaths`, `selectedPaths_covers`), and every glob is matched in the walk
from one root with the components of its own.
-/

set_option autoImplicit false

namespace StateSheet

variable {workspace : Workspace} {ignore : Globs} {patterns : List Text}

/-! ## Scanned texts -/

theorem textsAt_eq_ok_iff {path : Path} {texts : List Text} :
    textsAt workspace path = .ok texts ↔
      ∃ place node, workspace.resolve path = .ok place ∧ workspace.tree.at? place = some node ∧
        texts = node.texts := by
  unfold textsAt Workspace.find
  cases workspace.resolve path with
  | error fault => simp
  | ok place =>
      dsimp only
      cases present : workspace.tree.at? place with
      | none => simp [present]
      | some node => simp [present, eq_comm]

/-- What is found at a path is read there. -/
theorem textsAt_of_found {path : Path} {node : FileTree} (found : workspace.find path = .ok node) :
    textsAt workspace path = .ok node.texts := by
  rw [textsAt, found]

theorem Findings.ofPaths_eq_ok_iff {paths : List Path} {found : Findings} :
    Findings.ofPaths workspace paths = .ok found ↔
      ∃ texts, paths.mapM (textsAt workspace) = .ok texts ∧
        found = { classes := distinct (texts.flatten.flatMap Candidate.extract)
                  fileCount := texts.flatten.length } := by
  unfold ofPaths
  cases paths.mapM (textsAt workspace) with
  | error fault => simp
  | ok texts => simp [eq_comm]

/-- Paths can be scanned exactly when the texts at each of them can be read. -/
theorem Findings.exists_ofPaths_iff {paths : List Path} :
    (∃ found, Findings.ofPaths workspace paths = .ok found) ↔
      ∀ path ∈ paths, ∃ texts, textsAt workspace path = .ok texts := by
  rw [← exists_mapM_eq_ok_iff]
  constructor
  · rintro ⟨_, scanned⟩
    obtain ⟨texts, read, _⟩ := ofPaths_eq_ok_iff.mp scanned
    exact ⟨texts, read⟩
  · rintro ⟨texts, read⟩
    exact ⟨_, ofPaths_eq_ok_iff.mpr ⟨texts, read, rfl⟩⟩

/-- The classes of a scan of paths are the candidates of the texts that it reads. -/
theorem Findings.mem_classes_ofPaths_iff {paths : List Path} {found : Findings}
    (scanned : Findings.ofPaths workspace paths = .ok found) (name : Text) :
    name ∈ found.classes ↔ ∃ path ∈ paths, ∃ texts, textsAt workspace path = .ok texts ∧
      ∃ text ∈ texts, name ∈ Candidate.extract text := by
  obtain ⟨textLists, read, rfl⟩ := ofPaths_eq_ok_iff.mp scanned
  have kept : name ∈ distinct (textLists.flatten.flatMap Candidate.extract) ↔
      ∃ texts ∈ textLists, ∃ text ∈ texts, name ∈ Candidate.extract text := by
    simp only [mem_distinct_iff, List.mem_flatMap, List.mem_flatten]
    constructor
    · rintro ⟨text, ⟨texts, member, among⟩, found⟩
      exact ⟨texts, member, text, among, found⟩
    · rintro ⟨texts, member, text, among, found⟩
      exact ⟨text, ⟨texts, member, among⟩, found⟩
  rw [kept]
  constructor
  · rintro ⟨texts, member, found⟩
    obtain ⟨path, among, single⟩ := (mem_of_mapM_eq_ok read).mp member
    exact ⟨path, among, texts, single, found⟩
  · rintro ⟨path, among, texts, single, found⟩
    exact ⟨texts, (mem_of_mapM_eq_ok read).mpr ⟨path, among, single⟩, found⟩

/-! ## Scans of globs -/

theorem readGlobs_eq_ok_iff {globs : Globs} :
    readGlobs patterns = .ok globs ↔ Globs.read patterns = .ok globs := by
  unfold readGlobs
  cases Globs.read patterns <;> simp

/-- **A scan of globs is the scan of the paths that they select.** -/
theorem Findings.ofGlobs_eq_ok_iff {ignored : List Text} {found : Findings} :
    Findings.ofGlobs workspace patterns ignored = .ok found ↔
      patterns ≠ [] ∧ ∃ ignoreGlobs paths, Globs.read ignored = .ok ignoreGlobs ∧
        selectedPaths workspace ignoreGlobs patterns = .ok paths ∧
          Findings.ofPaths workspace paths = .ok found := by
  unfold ofGlobs
  by_cases empty : patterns = []
  · simp only [empty, if_true, ne_eq, not_true_eq_false, false_and, iff_false]
    rintro ⟨⟩
  · rw [if_neg empty]
    simp only [← readGlobs_eq_ok_iff]
    cases readGlobs ignored with
    | error fault => simp [bind, Except.bind]
    | ok ignoreGlobs =>
        cases selected : selectedPaths workspace ignoreGlobs patterns with
        | error fault => simp [bind, Except.bind, selected]
        | ok paths => simp [bind, Except.bind, selected, empty]

/-- Are these the paths that a scan of globs collects, one after another? -/
def Collects (workspace : Workspace) (patterns ignored : List Text) (paths : List Path) : Prop :=
  ∃ ignoreGlobs, Globs.read ignored = .ok ignoreGlobs ∧
    selectedPaths workspace ignoreGlobs patterns = .ok paths

/-- Does a scan of globs read the file at a place? -/
def Scans (workspace : Workspace) (patterns ignored : List Text) (place : Place) : Prop :=
  ∃ ignoreGlobs paths, Globs.read ignored = .ok ignoreGlobs ∧
    selectedPaths workspace ignoreGlobs patterns = .ok paths ∧
      ∃ path ∈ paths, workspace.resolve path = .ok place

/-- The paths that a scan of globs selects, and that it reads, are its own. -/
theorem Scans.of_selected {ignored : List Text} {ignoreGlobs : Globs}
    (ignoreRead : Globs.read ignored = .ok ignoreGlobs) {paths : List Path}
    (selected : selectedPaths workspace ignoreGlobs patterns = .ok paths) (place : Place) :
    Scans workspace patterns ignored place ↔
      ∃ path ∈ paths, workspace.resolve path = .ok place := by
  constructor
  · rintro ⟨otherGlobs, otherPaths, otherRead, otherSelected, reached⟩
    cases ignoreRead.symm.trans otherRead
    cases selected.symm.trans otherSelected
    exact reached
  · intro reached
    exact ⟨ignoreGlobs, paths, ignoreRead, selected, reached⟩

/-- A scan is known from evaluating which paths it selects. -/
theorem Scans.of_toOption {ignored : List Text} {paths : List Path}
    (evaluated : (Globs.read ignored).toOption.bind (fun ignoreGlobs =>
      (selectedPaths workspace ignoreGlobs patterns).toOption) = some paths) {path : Path}
    (member : path ∈ paths) {place : Place} (resolved : workspace.resolve path = .ok place) :
    Scans workspace patterns ignored place := by
  obtain ⟨ignoreGlobs, ignoreRead, selected⟩ := Option.bind_eq_some_iff.mp evaluated
  exact ⟨ignoreGlobs, paths, eq_ok_of_toOption ignoreRead, eq_ok_of_toOption selected, path,
    member, resolved⟩

/-- **The classes of a scan of globs are the candidates in the files that it reads.** -/
theorem Findings.mem_classes_iff {ignored : List Text} {found : Findings}
    (scanned : Findings.ofGlobs workspace patterns ignored = .ok found) (name : Text) :
    name ∈ found.classes ↔ ∃ place, Scans workspace patterns ignored place ∧
      ∃ node, workspace.tree.at? place = some node ∧
        ∃ text ∈ node.texts, name ∈ Candidate.extract text := by
  obtain ⟨_, ignoreGlobs, paths, ignoreRead, selected, read⟩ := ofGlobs_eq_ok_iff.mp scanned
  simp only [mem_classes_ofPaths_iff read, textsAt_eq_ok_iff,
    Scans.of_selected ignoreRead selected]
  constructor
  · rintro ⟨path, member, _, ⟨place, node, resolved, present, rfl⟩, candidate⟩
    exact ⟨place, ⟨path, member, resolved⟩, node, present, candidate⟩
  · rintro ⟨place, ⟨path, member, resolved⟩, node, present, candidate⟩
    exact ⟨path, member, _, ⟨place, node, resolved, present, rfl⟩, candidate⟩

/-- The paths of a successful scan lead to something. -/
theorem Findings.present_of_ofPaths {paths : List Path} {found : Findings}
    (scanned : Findings.ofPaths workspace paths = .ok found) {path : Path}
    (member : path ∈ paths) :
    ∃ place node, workspace.resolve path = .ok place ∧ workspace.tree.at? place = some node := by
  obtain ⟨texts, read⟩ := exists_ofPaths_iff.mp ⟨found, scanned⟩ path member
  obtain ⟨place, node, resolved, present, _⟩ := textsAt_eq_ok_iff.mp read
  exact ⟨place, node, resolved, present⟩

/-! ## Selection in one walk -/

/-- Does a glob select a path in the walk from a root? -/
def Selects (workspace : Workspace) (ignore : Globs) (root : Path) (pattern : Text)
    (path : Path) : Prop :=
  ∃ glob, Globs.IsRead pattern glob ∧ path ∈ selectedFrom workspace { root } [glob] ignore

/-- What a set of globs matches as walked or as seen from the root is what one of
its filters matches so. -/
theorem matchesFrom_iff_of_read {globs : Globs} (read : Globs.read patterns = .ok globs)
    (root path : Path) :
    matchesFrom root globs path = true ↔
      ∃ pattern ∈ patterns, ∃ glob, Globs.IsRead pattern glob ∧
        matchesFrom root [glob] path = true := by
  have alone (glob : Glob) (seen : Path) : Globs.isMatch [glob] seen = glob.isMatch seen := by
    simp [Globs.isMatch]
  simp only [matchesFrom, Bool.or_eq_true, Globs.isMatch_iff_of_read read, alone]
  constructor
  · rintro (⟨pattern, among, glob, single, found⟩ | ⟨pattern, among, glob, single, found⟩)
    · exact ⟨pattern, among, glob, single, Or.inl found⟩
    · exact ⟨pattern, among, glob, single, Or.inr found⟩
  · rintro ⟨pattern, among, glob, single, found | found⟩
    · exact Or.inl ⟨pattern, among, glob, single, found⟩
    · exact Or.inr ⟨pattern, among, glob, single, found⟩

/-- **A glob selects the same paths of a walk in any company.** -/
theorem mem_selectedFrom_iff {globs : Globs} (read : Globs.read patterns = .ok globs)
    (root path : Path) :
    path ∈ selectedFrom workspace { root } globs ignore ↔
      ∃ pattern ∈ patterns, Selects workspace ignore root pattern path := by
  simp only [Selects, selectedFrom, List.mem_filter, Bool.and_eq_true,
    matchesFrom_iff_of_read read]
  constructor
  · rintro ⟨walked, ⟨⟨pattern, among, glob, single, found⟩, kept⟩, notSkipped⟩
    exact ⟨pattern, among, glob, single, walked, ⟨found, kept⟩, notSkipped⟩
  · rintro ⟨pattern, among, glob, single, walked, ⟨found, kept⟩, notSkipped⟩
    exact ⟨walked, ⟨⟨pattern, among, glob, single, found⟩, kept⟩, notSkipped⟩

/-- A selected path is walked, and neither ignored nor passed over. -/
theorem Selects.kept {root path : Path} {pattern : Text}
    (selected : Selects workspace ignore root pattern path) :
    path ∈ walk workspace true root ∧ matchesFrom root ignore path = false ∧
      isSkipped { root } path = false := by
  obtain ⟨_, _, member⟩ := selected
  simp only [selectedFrom, List.mem_filter, Bool.and_eq_true, Bool.not_eq_true'] at member
  obtain ⟨walked, ⟨_, notIgnored⟩, notSkipped⟩ := member
  exact ⟨walked, notIgnored, notSkipped⟩

/-- What matches below a root matches below each that leads the same way. -/
theorem matchesFrom_congr {root other : Path} (same : root.components = other.components)
    (globs : Globs) (path : Path) : matchesFrom root globs path = matchesFrom other globs path := by
  have sameView : root.relativeTo? path = other.relativeTo? path := by
    rw [Path.relativeTo?, Path.relativeTo?, same]
  rw [matchesFrom, matchesFrom, sameView]

/-- What is matched as it is seen in a walk is matched there. -/
theorem matchesFrom_of_view {root path seen : Path}
    (view : root.relativeTo? path = some seen ∨ path = seen) {globs : Globs}
    (found : globs.isMatch seen = true) : matchesFrom root globs path = true := by
  rcases view with below | rfl
  · simp [matchesFrom, below, found]
  · simp [matchesFrom, found]

/-- A glob selects the same from roots that lead the same way and are walked alike. -/
theorem Selects.of_walk_eq {root other path : Path} {pattern : Text}
    (selected : Selects workspace ignore root pattern path)
    (same : root.components = other.components)
    (sameWalk : walk workspace true root = walk workspace true other) :
    Selects workspace ignore other pattern path := by
  obtain ⟨glob, read, member⟩ := selected
  refine ⟨glob, read, ?_⟩
  simp only [selectedFrom, matchesFrom_congr same, sameWalk] at member ⊢
  exact member

/-! ## Selection from all roots -/

/-- The walked roots are roots of globs. -/
theorem exists_pattern_of_mem_patternRoots {root : Path} (member : root ∈ patternRoots patterns) :
    ∃ pattern ∈ patterns, Glob.root pattern = root := by
  rw [patternRoots, List.mem_mergeSort] at member
  exact List.mem_map.mp (mem_of_mem_distinctBy member)

/-- For every glob a root with the components of its own is walked. -/
theorem exists_mem_patternRoots {pattern : Text} (among : pattern ∈ patterns) :
    ∃ root ∈ patternRoots patterns, pattern ∈ patternsOf root patterns := by
  have key := (key_mem_distinctBy_iff Path.components (patterns.map Glob.root)
    (Glob.root pattern).components).mpr
      (List.mem_map_of_mem (List.mem_map_of_mem among))
  obtain ⟨root, kept, same⟩ := List.mem_map.mp key
  refine ⟨root, List.mem_mergeSort.mpr kept, List.mem_filter.mpr ⟨among, ?_⟩⟩
  exact decide_eq_true same.symm

/-- The paths selected in the walk from one of the roots. -/
def selectedAt (workspace : Workspace) (ignore : Globs) (patterns : List Text) (root : Path) :
    Except ScanFault (List Path) := do
  let globs ← readGlobs (patternsOf root patterns)
  return selectedFrom workspace { root } globs ignore

theorem selectedAt_eq_ok_iff {root : Path} {paths : List Path} :
    selectedAt workspace ignore patterns root = .ok paths ↔
      ∃ globs, Globs.read (patternsOf root patterns) = .ok globs ∧
        paths = selectedFrom workspace { root } globs ignore := by
  unfold selectedAt
  simp only [← readGlobs_eq_ok_iff]
  cases readGlobs (patternsOf root patterns) with
  | error fault => simp [bind, Except.bind]
  | ok globs => simp [bind, Except.bind, pure, Except.pure, eq_comm]

theorem selectedPaths_eq_ok_iff {paths : List Path} :
    selectedPaths workspace ignore patterns = .ok paths ↔
      ∃ collected, (patternRoots patterns).mapM (selectedAt workspace ignore patterns) =
          .ok collected ∧ paths = distinctBy Path.components collected.flatten := by
  change ((patternRoots patterns).mapM (selectedAt workspace ignore patterns) >>= _) = _ ↔ _
  cases (patternRoots patterns).mapM (selectedAt workspace ignore patterns) with
  | error fault => simp [bind, Except.bind]
  | ok collected => simp [bind, Except.bind, pure, Except.pure, eq_comm]

/-- Globs select some list of paths exactly when each of them is a path filter. -/
theorem exists_selectedPaths_iff :
    (∃ paths, selectedPaths workspace ignore patterns = .ok paths) ↔
      ∀ pattern ∈ patterns, ∃ glob, Globs.IsRead pattern glob := by
  constructor
  · rintro ⟨paths, whole⟩ pattern member
    obtain ⟨collected, each, _⟩ := selectedPaths_eq_ok_iff.mp whole
    obtain ⟨root, walked, among⟩ := exists_mem_patternRoots member
    obtain ⟨_, single⟩ := exists_mapM_eq_ok_iff.mp ⟨collected, each⟩ root walked
    obtain ⟨globs, read, _⟩ := selectedAt_eq_ok_iff.mp single
    exact Globs.exists_read_iff.mp ⟨globs, read⟩ pattern among
  · intro valid
    have each : ∀ root ∈ patternRoots patterns,
        ∃ paths, selectedAt workspace ignore patterns root = .ok paths := by
      intro root _
      obtain ⟨globs, read⟩ := Globs.exists_read_iff.mpr fun pattern member =>
        valid pattern (List.mem_filter.mp member).1
      exact ⟨_, selectedAt_eq_ok_iff.mpr ⟨globs, read, rfl⟩⟩
    obtain ⟨collected, whole⟩ := exists_mapM_eq_ok_iff.mpr each
    exact ⟨_, selectedPaths_eq_ok_iff.mpr ⟨collected, whole, rfl⟩⟩

/-- A scan of globs collects some list of paths exactly when all globs and all ignore globs are
path filters. -/
theorem exists_collects_iff {ignored : List Text} :
    (∃ paths, Collects workspace patterns ignored paths) ↔
      (∀ pattern ∈ patterns, ∃ glob, Globs.IsRead pattern glob) ∧
        ∀ pattern ∈ ignored, ∃ glob, Globs.IsRead pattern glob := by
  constructor
  · rintro ⟨paths, ignoreGlobs, ignoreRead, selected⟩
    exact ⟨exists_selectedPaths_iff.mp ⟨paths, selected⟩,
      Globs.exists_read_iff.mp ⟨ignoreGlobs, ignoreRead⟩⟩
  · rintro ⟨valid, ignoredValid⟩
    obtain ⟨ignoreGlobs, ignoreRead⟩ := Globs.exists_read_iff.mpr ignoredValid
    obtain ⟨paths, selected⟩ : ∃ paths, selectedPaths workspace ignoreGlobs patterns = .ok paths :=
      exists_selectedPaths_iff.mpr valid
    exact ⟨paths, ignoreGlobs, ignoreRead, selected⟩

/-- What is collected from all walks is what some glob selects in the walk from a
root with the components of its own. -/
theorem mem_collected_iff {collected : List (List Path)}
    (whole : (patternRoots patterns).mapM (selectedAt workspace ignore patterns) =
      .ok collected) (path : Path) :
    path ∈ collected.flatten ↔ ∃ root ∈ patternRoots patterns,
      ∃ pattern ∈ patternsOf root patterns, Selects workspace ignore root pattern path := by
  rw [List.mem_flatten]
  constructor
  · rintro ⟨paths, member, selected⟩
    obtain ⟨root, among, single⟩ := (mem_of_mapM_eq_ok whole).mp member
    obtain ⟨globs, read, rfl⟩ := selectedAt_eq_ok_iff.mp single
    exact ⟨root, among, (mem_selectedFrom_iff read root path).mp selected⟩
  · rintro ⟨root, among, selected⟩
    obtain ⟨paths, single⟩ := exists_mapM_eq_ok_iff.mp ⟨_, whole⟩ root among
    refine ⟨paths, (mem_of_mapM_eq_ok whole).mpr ⟨root, among, single⟩, ?_⟩
    obtain ⟨globs, read, rfl⟩ := selectedAt_eq_ok_iff.mp single
    exact (mem_selectedFrom_iff read root path).mpr selected

/-- **A scanned path is selected by some glob.** -/
theorem mem_selectedPaths {paths : List Path}
    (whole : selectedPaths workspace ignore patterns = .ok paths) {path : Path}
    (kept : path ∈ paths) :
    ∃ root ∈ patternRoots patterns, ∃ pattern ∈ patternsOf root patterns,
      Selects workspace ignore root pattern path := by
  obtain ⟨collected, each, rfl⟩ := selectedPaths_eq_ok_iff.mp whole
  exact (mem_collected_iff each path).mp (mem_of_mem_distinctBy kept)

/-- **Of every path that a glob selects, one with the same components is scanned.** -/
theorem selectedPaths_covers {paths : List Path}
    (whole : selectedPaths workspace ignore patterns = .ok paths) {root : Path}
    (walked : root ∈ patternRoots patterns) {pattern : Text}
    (among : pattern ∈ patternsOf root patterns) {path : Path}
    (selected : Selects workspace ignore root pattern path) :
    ∃ other ∈ paths, other.components = path.components := by
  obtain ⟨collected, each, rfl⟩ := selectedPaths_eq_ok_iff.mp whole
  have found := (mem_collected_iff each path).mpr ⟨root, walked, pattern, among, selected⟩
  have key := (key_mem_distinctBy_iff Path.components collected.flatten path.components).mpr
    (List.mem_map_of_mem found)
  exact List.mem_map.mp key

end StateSheet
