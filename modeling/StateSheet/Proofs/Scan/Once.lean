import Mathlib.Algebra.Order.BigOperators.Group.List
import Mathlib.Algebra.Order.Group.Nat
import Mathlib.Data.List.Nodup
import Mathlib.Data.List.Perm.Subperm
import StateSheet.Proofs.Scan.Selection
import StateSheet.Proofs.Walk

/-!
# Files that are scanned once

A scan reads no two paths with the same components (`nodup_components_selectedPaths`).
Whether it reads a file once is therefore a matter of how the roots of its globs are
written. They are nested if a root that lies below another one is written as that one,
continued by names. Then the place of a file tells the components of every path by which
the scan comes to it (`RootsNested.components_eq`), and the scan reads no file twice
(`scan_reads_no_file_twice`).

Roots that are written from one start are nested, wherever they lead
(`RootsNested.of_common_start`). The working directory and a directory below it are not,
and a file that is selected from both is read twice (`scan_reads_file_from_two_roots`).
-/

set_option autoImplicit false

namespace StateSheet

variable {workspace : Workspace} {ignore : Globs} {patterns : List Text}

/-! ## Nested roots -/

/-- Is every root that lies below another one written as that one, continued by the names
that lead down to it? -/
def RootsNested (workspace : Workspace) (patterns : List Text) : Prop :=
  ∀ outer ∈ patterns, ∀ inner ∈ patterns, ∀ (place : Place) (names : List Text),
    workspace.resolve (Glob.root outer) = .ok place →
      workspace.resolve (Glob.root inner) = .ok (place ++ names) →
        (Glob.root inner).components = (Glob.root outer).components ++ names.map .entry

/-- **Roots that go on by names from one start are nested.** -/
theorem RootsNested.of_common_start (start : List Path.Component)
    (each : ∀ pattern ∈ patterns, ∃ names : List Text,
      (Glob.root pattern).components = start ++ names.map .entry) :
    RootsNested workspace patterns := by
  intro outer outerMember inner innerMember place names outerResolved innerResolved
  obtain ⟨above, outerComponents⟩ := each outer outerMember
  obtain ⟨below, innerComponents⟩ := each inner innerMember
  have outerPlace := Workspace.place_of_resolve outerResolved
  have innerPlace := Workspace.place_of_resolve innerResolved
  rw [outerComponents, List.foldl_append, Path.Component.foldl_lead_entries] at outerPlace
  rw [innerComponents, List.foldl_append, Path.Component.foldl_lead_entries, outerPlace,
    List.append_assoc, List.append_cancel_left_eq] at innerPlace
  rw [innerComponents, outerComponents, ← innerPlace, List.map_append, List.append_assoc]

/-! ## Paths to one file -/

/-- A selected path goes on from the root of a glob by the names that lead to a file. -/
theorem exists_names_of_selected (wellNamed : workspace.tree.WellNamed) {paths : List Path}
    (selected : selectedPaths workspace ignore patterns = .ok paths) {path : Path}
    (kept : path ∈ paths) :
    ∃ pattern ∈ patterns, ∃ (base names : Place) (content : ByteArray),
      workspace.resolve (Glob.root pattern) = .ok base ∧
      (base ++ names, content) ∈ workspace.tree.files ∧
      path.components = (Glob.root pattern).components ++ names.map .entry := by
  obtain ⟨root, walkedRoot, _, _, selects⟩ := mem_selectedPaths selected kept
  obtain ⟨pattern, member, rfl⟩ := exists_pattern_of_mem_patternRoots walkedRoot
  obtain ⟨base, names, content, resolved, isFile, rfl, _⟩ := mem_walk selects.kept.1
  have given := Workspace.written_ne_nil_of_check (Workspace.resolve_eq_ok_iff.mp resolved).1
  exact ⟨pattern, member, base, names, content, resolved, isFile,
    Path.components_joinAll given (wellNamed.names_of_walk isFile)⟩

/-- Selected paths lead to the places of files, wherever they can be followed. -/
theorem place_of_selected (wellNamed : workspace.tree.WellNamed) {paths : List Path}
    (selected : selectedPaths workspace ignore patterns = .ok paths) {path : Path}
    (kept : path ∈ paths) {place : Place} (resolved : workspace.resolve path = .ok place) :
    ∃ content, (place, content) ∈ workspace.tree.files := by
  obtain ⟨_, _, base, names, content, rootResolved, isFile, components⟩ :=
    exists_names_of_selected wellNamed selected kept
  have placeBelow := Workspace.place_of_resolve resolved
  rw [components, List.foldl_append, ← Workspace.place_of_resolve rootResolved,
    Path.Component.foldl_lead_entries] at placeBelow
  exact ⟨content, by rw [placeBelow]; exact isFile⟩

/-- **Selected paths that lead to one place have the same components**, if the roots are
nested. -/
theorem RootsNested.components_eq (nested : RootsNested workspace patterns)
    (wellNamed : workspace.tree.WellNamed) {paths : List Path}
    (selected : selectedPaths workspace ignore patterns = .ok paths) {first second : Path}
    (firstKept : first ∈ paths) (secondKept : second ∈ paths)
    (samePlace : first.components.foldl Path.Component.lead workspace.directory =
      second.components.foldl Path.Component.lead workspace.directory) :
    first.components = second.components := by
  obtain ⟨outer, outerMember, base, names, _, outerResolved, _, firstComponents⟩ :=
    exists_names_of_selected wellNamed selected firstKept
  obtain ⟨inner, innerMember, other, others, _, innerResolved, _, secondComponents⟩ :=
    exists_names_of_selected wellNamed selected secondKept
  rw [firstComponents, secondComponents, List.foldl_append, List.foldl_append,
    ← Workspace.place_of_resolve outerResolved, ← Workspace.place_of_resolve innerResolved,
    Path.Component.foldl_lead_entries, Path.Component.foldl_lead_entries] at samePlace
  -- One of the roots lies below the other, since both lie above the same place.
  rcases List.append_eq_append_iff.mp samePlace with ⟨between, rfl, rfl⟩ | ⟨between, rfl, rfl⟩
  · rw [firstComponents, secondComponents,
      nested outer outerMember inner innerMember base between outerResolved innerResolved,
      List.map_append, List.append_assoc]
  · rw [firstComponents, secondComponents,
      nested inner innerMember outer outerMember other between innerResolved outerResolved,
      List.map_append, List.append_assoc]

/-! ## Reading -/

/-- Are these the places of the files that a scan of globs reads, one after another? -/
def ScanReads (workspace : Workspace) (patterns ignored : List Text) (places : List Place) : Prop :=
  ∃ ignoreGlobs paths, Globs.read ignored = .ok ignoreGlobs ∧
    selectedPaths workspace ignoreGlobs patterns = .ok paths ∧
      paths.mapM workspace.resolve = .ok places

/-- **A scan reads no two paths with the same components.** -/
theorem nodup_components_selectedPaths {paths : List Path}
    (selected : selectedPaths workspace ignore patterns = .ok paths) :
    (paths.map Path.components).Nodup := by
  obtain ⟨collected, _, rfl⟩ := selectedPaths_eq_ok_iff.mp selected
  exact nodup_map_distinctBy Path.components collected.flatten

/-- The places that paths lead to are where their components lead. -/
theorem places_eq_map {paths : List Path} {places : List Place}
    (resolved : paths.mapM workspace.resolve = .ok places) :
    places = paths.map fun path =>
      path.components.foldl Path.Component.lead workspace.directory := by
  have paired := mapM_eq_ok_iff.mp resolved
  clear resolved
  induction paired with
  | nil => rfl
  | cons first _ ih => rw [List.map_cons, ← ih, ← Workspace.place_of_resolve first]

/-- Nested roots are scanned without coming to a place twice. -/
theorem RootsNested.nodup_places (nested : RootsNested workspace patterns)
    (wellNamed : workspace.tree.WellNamed) {paths : List Path}
    (selected : selectedPaths workspace ignore patterns = .ok paths) {places : List Place}
    (resolved : paths.mapM workspace.resolve = .ok places) : places.Nodup := by
  have different := nodup_components_selectedPaths selected
  rw [places_eq_map resolved]
  refine List.Nodup.map_on (fun first firstKept second secondKept samePlace => ?_) different.of_map
  exact List.inj_on_of_nodup_map different firstKept secondKept
    (nested.components_eq wellNamed selected firstKept secondKept samePlace)

/-- At most one text is read from a path that leads to a file. -/
theorem length_le_one_of_textsAt {path : Path} {texts : List Text}
    (read : textsAt workspace path = .ok texts) {place : Place}
    (resolved : workspace.resolve path = .ok place) {content : ByteArray}
    (isFile : workspace.tree.at? place = some (.file content)) : texts.length ≤ 1 := by
  obtain ⟨other, node, otherResolved, present, rfl⟩ := textsAt_eq_ok_iff.mp read
  cases resolved.symm.trans otherResolved
  cases isFile.symm.trans present
  rw [FileTree.texts]
  exact Option.length_toList_le

/-- A scan of paths that lead to files reads at most one text from each of them. -/
theorem Findings.fileCount_le_length {paths : List Path} {found : Findings}
    (scanned : Findings.ofPaths workspace paths = .ok found)
    (files : ∀ path ∈ paths, ∀ place, workspace.resolve path = .ok place →
      ∃ content, workspace.tree.at? place = some (.file content)) :
    found.fileCount ≤ paths.length := by
  obtain ⟨texts, read, rfl⟩ := ofPaths_eq_ok_iff.mp scanned
  have each : ∀ length ∈ texts.map List.length, length ≤ 1 := by
    intro length among
    obtain ⟨single, member, rfl⟩ := List.mem_map.mp among
    obtain ⟨path, kept, readHere⟩ := (mem_of_mapM_eq_ok read).mp member
    obtain ⟨place, _, resolved, _, _⟩ := textsAt_eq_ok_iff.mp readHere
    obtain ⟨content, isFile⟩ := files path kept place resolved
    exact length_le_one_of_textsAt readHere resolved isFile
  have total := List.sum_le_card_nsmul _ 1 each
  rw [List.length_map, Nat.nsmul_eq_mul, Nat.mul_one, ← (mapM_eq_ok_iff.mp read).length_eq] at total
  rwa [List.length_flatten]

/-- **A scan reads no file twice**, if the roots of its globs are nested. What it reads are
files of the tree, so there are at least as many of these as it counts. -/
theorem scan_reads_no_file_twice (wellNamed : workspace.tree.WellNamed)
    (distinct : workspace.tree.hasDistinctNames = true) (nested : RootsNested workspace patterns)
    {ignored : List Text} {found : Findings}
    (scanned : Findings.ofGlobs workspace patterns ignored = .ok found) :
    ∃ places, ScanReads workspace patterns ignored places ∧ places.Nodup ∧
      (∀ place ∈ places, ∃ content, workspace.tree.at? place = some (.file content)) ∧
      found.fileCount ≤ places.length ∧ places.length ≤ workspace.tree.files.length := by
  obtain ⟨_, ignoreGlobs, paths, ignoreRead, selected, read⟩ :=
    Findings.ofGlobs_eq_ok_iff.mp scanned
  obtain ⟨places, resolved⟩ : ∃ places, paths.mapM workspace.resolve = .ok places := by
    refine exists_mapM_eq_ok_iff.mpr fun path kept => ?_
    obtain ⟨place, _, reached, _⟩ := Findings.present_of_ofPaths read kept
    exact ⟨place, reached⟩
  have once := nested.nodup_places wellNamed selected resolved
  have listed : ∀ place ∈ places, ∃ content, (place, content) ∈ workspace.tree.files := by
    intro place among
    obtain ⟨path, kept, reached⟩ := (mem_of_mapM_eq_ok resolved).mp among
    exact place_of_selected wellNamed selected kept reached
  have files : ∀ place ∈ places, ∃ content, workspace.tree.at? place = some (.file content) := by
    intro place among
    obtain ⟨content, member⟩ := listed place among
    exact ⟨content, FileTree.at?_of_mem_files distinct member⟩
  refine ⟨places, ⟨ignoreGlobs, paths, ignoreRead, selected, resolved⟩, once, files, ?_, ?_⟩
  · rw [← (mapM_eq_ok_iff.mp resolved).length_eq]
    refine Findings.fileCount_le_length read fun path kept place reached => ?_
    exact files place ((mem_of_mapM_eq_ok resolved).mpr ⟨path, kept, reached⟩)
  · have among : places ⊆ workspace.tree.files.map Prod.fst := by
      intro place member
      obtain ⟨content, isFile⟩ := listed place member
      exact List.mem_map_of_mem isFile
    have bounded := (once.subperm among).length_le
    rwa [List.length_map] at bounded

/-- What globs select is known from evaluating the walks from their roots, if these are
first met in ascending order. -/
theorem selectedPaths_of_ascending {roots paths : List Path}
    (first : distinctBy Path.components (patterns.map Glob.root) = roots)
    (ascending : roots.Pairwise fun root other =>
      (!decide (other.components < root.components)) = true)
    (evaluated : (roots.mapM (selectedAt workspace ignore patterns)).toOption.map
      (fun collected => distinctBy Path.components collected.flatten) = some paths) :
    selectedPaths workspace ignore patterns = .ok paths := by
  obtain ⟨collected, each, kept⟩ := Option.map_eq_some_iff.mp evaluated
  refine selectedPaths_eq_ok_iff.mpr ⟨collected, ?_, kept.symm⟩
  rw [patternRoots, first, List.mergeSort_of_pairwise ascending]
  exact eq_ok_of_toOption each

/-- What globs and ignore globs collect is known in the same way. -/
theorem Collects.of_ascending {ignored : List Text} {roots paths : List Path}
    (first : distinctBy Path.components (patterns.map Glob.root) = roots)
    (ascending : roots.Pairwise fun root other =>
      (!decide (other.components < root.components)) = true)
    (evaluated : (Globs.read ignored).toOption.bind (fun ignoreGlobs =>
      (roots.mapM (selectedAt workspace ignoreGlobs patterns)).toOption.map
        fun collected => distinctBy Path.components collected.flatten) = some paths) :
    Collects workspace patterns ignored paths := by
  obtain ⟨ignoreGlobs, ignoreRead, selected⟩ := Option.bind_eq_some_iff.mp evaluated
  exact ⟨ignoreGlobs, eq_ok_of_toOption ignoreRead,
    selectedPaths_of_ascending first ascending selected⟩

/-- Three roots on one way down, spelled with a doubled separator, with a dot inside and
without a separator at the end. All of them lead to one of the two files. -/
theorem scan_reads_no_file_twice_overlapping_roots :
    let workspace : Workspace :=
      { tree := .directory [("src".toList, .directory
          [("a.html".toList, .file (FileTree.encode "class='ui-open:block'".toList)),
            ("sub".toList, .directory
              [("b.html".toList, .file (FileTree.encode "class='ui-shut:flex'".toList))])])] }
    let patterns := ["src//**/*.html".toList, "src/./sub/*.html".toList, "src/sub/b.html".toList]
    ∃ places, ScanReads workspace patterns [] places ∧ places.Nodup ∧ places.length = 2 := by
  intro workspace patterns
  have nested : RootsNested workspace patterns := by
    refine RootsNested.of_common_start [] fun pattern member => ?_
    simp only [patterns, List.mem_cons, List.not_mem_nil, or_false] at member
    rcases member with rfl | rfl | rfl
    · exact ⟨["src".toList], by decide⟩
    · exact ⟨["src".toList, "sub".toList], by decide⟩
    · exact ⟨["src".toList, "sub".toList], by decide⟩
  have selected : selectedPaths workspace [] patterns =
      .ok [⟨"src//a.html".toList⟩, ⟨"src//sub/b.html".toList⟩] :=
    selectedPaths_of_ascending rfl (by decide) (by decide +kernel)
  have read : (Findings.ofPaths workspace
      [⟨"src//a.html".toList⟩, ⟨"src//sub/b.html".toList⟩]).toOption =
        some ⟨["ui-open:block".toList, "ui-shut:flex".toList], 2⟩ := by decide +kernel
  have scanned : Findings.ofGlobs workspace patterns [] =
      .ok ⟨["ui-open:block".toList, "ui-shut:flex".toList], 2⟩ :=
    Findings.ofGlobs_eq_ok_iff.mpr
      ⟨List.cons_ne_nil _ _, [], _, rfl, selected, eq_ok_of_toOption read⟩
  obtain ⟨places, reads, once, _, counted, bounded⟩ :=
    scan_reads_no_file_twice (by decide +kernel) (by decide +kernel) nested scanned
  have two : workspace.tree.files.length = 2 := by decide +kernel
  rw [two] at bounded
  exact ⟨places, reads, once, Nat.le_antisymm bounded counted⟩

/-- **A file that is selected from two roots is read twice**, if the roots are written from
different starts: from the working directory, which is written as a dot, and from a
directory below it, which is written without. -/
theorem scan_reads_file_from_two_roots :
    let workspace : Workspace :=
      { tree := .directory [("src".toList, .directory
          [("a.html".toList, .file (FileTree.encode "<p class=\"ui-open:block\">".toList))])] }
    let patterns := ["*.html".toList, "src/*.html".toList]
    let place := ["src".toList, "a.html".toList]
    Findings.ofGlobs workspace patterns [] = .ok ⟨["ui-open:block".toList], 2⟩ ∧
      ScanReads workspace patterns [] [place, place] ∧
      workspace.tree.files.map Prod.fst = [place] := by
  intro workspace patterns place
  have selected : selectedPaths workspace [] patterns =
      .ok [⟨"./src/a.html".toList⟩, ⟨"src/a.html".toList⟩] :=
    selectedPaths_of_ascending rfl (by decide) (by decide +kernel)
  have read : (Findings.ofPaths workspace
      [⟨"./src/a.html".toList⟩, ⟨"src/a.html".toList⟩]).toOption =
        some ⟨["ui-open:block".toList], 2⟩ := by decide +kernel
  have resolved : ([⟨"./src/a.html".toList⟩, ⟨"src/a.html".toList⟩].mapM
      workspace.resolve).toOption = some [place, place] := by decide +kernel
  refine ⟨?_, ⟨[], _, rfl, selected, eq_ok_of_toOption resolved⟩, by decide +kernel⟩
  exact Findings.ofGlobs_eq_ok_iff.mpr
    ⟨List.cons_ne_nil _ _, [], _, rfl, selected, eq_ok_of_toOption read⟩

end StateSheet
