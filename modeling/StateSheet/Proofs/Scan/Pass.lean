import StateSheet.Proofs.FileTree.Resolve
import StateSheet.Proofs.Scan.Selection
import StateSheet.Proofs.Text.Distinct

/-!
# Scans in one pass

A scan of paths visits file after file: those at or below the first listed path, then those of
the second, a file as often as it is reached. This can be done in one pass that remembers the
classes it has seen (`Pass.scan`). Reading a file takes the pass that has read some texts to the
one that has read the text of the file behind them (`Pass.readFile_ofTexts`), and so does a
whole directory (`Pass.visit_ofTexts`) and a list of paths (`Pass.foldlM_visitPath`).

The pass looks up the path of every entry again, and fails if it is not found. Below a path that
is found this is so only when a name or a path gets too long (`Workspace.resolve_entry`), and
then no one can read what lies there from that path. Everything else is found, and the pass
finds what the scan finds (`scan_visits_file_after_file`).
-/

set_option autoImplicit false

namespace StateSheet

/-! ## Texts of files -/

namespace FileTree

mutual
/-- **The texts of a tree are those of its files** that hold one. -/
theorem texts_eq_filterMap : ∀ tree : FileTree,
    tree.texts = tree.files.filterMap fun file => decode? file.2
  | .file content => by
      rw [texts, files, filesFrom]
      cases text : decode? content <;> simp [text]
  | .directory entries => by
      rw [texts, files, filesFrom, textsIn_eq_filterMap entries]

theorem textsIn_eq_filterMap : ∀ entries : List (Text × FileTree),
    textsIn entries = (filesInFrom [] entries).filterMap fun file => decode? file.2
  | [] => rfl
  | (name, node) :: rest => by
      rw [textsIn, filesInFrom, filesFrom_eq_map, List.filterMap_append, List.filterMap_map,
        texts_eq_filterMap node, textsIn_eq_filterMap rest]
      rfl
end

end FileTree

/-! ## What is found below a path -/

namespace Workspace

mutual
/-- Are the names below a path those that a directory can have, and are the paths that they
make short enough to be followed? -/
def fits (path : Path) : FileTree → Bool
  | .file _ => true
  | .directory entries => entriesFit path entries

/-- Do the entries of the directory at a path fit, and everything below them? -/
def entriesFit (path : Path) : List (Text × FileTree) → Bool
  | [] => true
  | (name, node) :: rest =>
      decide (Path.IsName name ∧ (Text.bytes name).length ≤ nameLimit) &&
        (check (path.join name)).isOk && fits (path.join name) node && entriesFit path rest
end

/-- **An entry that fits is found** at the path of its directory continued by its name. -/
theorem resolve_entry {workspace : Workspace} {path : Path} {place : Place}
    {entries : List (Text × FileTree)} (resolved : workspace.resolve path = .ok place)
    (present : workspace.tree.at? place = some (.directory entries))
    (distinct : (FileTree.directory entries).hasDistinctNames = true) {name : Text}
    {node : FileTree} (member : (name, node) ∈ entries) (proper : Path.IsName name)
    (short : (Text.bytes name).length ≤ nameLimit)
    (passed : (check (path.join name)).isOk = true) :
    workspace.resolve (path.join name) = .ok (place ++ [name]) ∧
      workspace.tree.at? (place ++ [name]) = some node := by
  obtain ⟨different, -⟩ := FileTree.entriesHaveDistinctNames_iff.mp distinct
  have entered := FileTree.child?_of_mem different member
  constructor
  · cases checked : check (path.join name) with
    | error fault => rw [checked] at passed; cases passed
    | ok _ => exact resolve_join resolved present proper short entered checked
  · rw [FileTree.at?_append, present, Option.bind_some,
      FileTree.at?_cons_of_mem different member, FileTree.at?_nil]

end Workspace

/-! ## One pass -/

/-- What a pass over files has gathered. -/
structure Pass where
  classes : List Text := []
  seen : List Text := []
  fileCount : Nat := 0

namespace Pass

/-- Takes up a class unless it was seen. -/
def takeUp (pass : Pass) (className : Text) : Pass :=
  if pass.seen.contains className then pass
  else
    { pass with classes := pass.classes ++ [className], seen := className :: pass.seen }

/-- Reads a file and takes up the candidates of its text, if it holds one. -/
def readFile (pass : Pass) (content : ByteArray) : Pass :=
  match FileTree.decode? content with
  | none => pass
  | some text =>
      (Candidate.extract text).foldl takeUp { pass with fileCount := pass.fileCount + 1 }

mutual
/-- Visits what lies at a path. -/
def visit (workspace : Workspace) (pass : Pass) (path : Path) : FileTree → Except ScanFault Pass
  | .file content => .ok (pass.readFile content)
  | .directory entries => visitEntries workspace pass path entries

/-- Visits the entries of the directory at a path, one after another. The path of
an entry is looked up again. -/
def visitEntries (workspace : Workspace) (pass : Pass) (path : Path) :
    List (Text × FileTree) → Except ScanFault Pass
  | [] => .ok pass
  | (name, node) :: rest =>
      match workspace.find (path.join name) with
      | .error _ => .error (.pathNotFound (path.join name))
      | .ok _ =>
          match visit workspace pass (path.join name) node with
          | .error fault => .error fault
          | .ok next => visitEntries workspace next path rest
end

/-- Visits a path that is listed. -/
def visitPath (workspace : Workspace) (pass : Pass) (path : Path) : Except ScanFault Pass :=
  match workspace.find path with
  | .error _ => .error (.pathNotFound path)
  | .ok node => pass.visit workspace path node

/-- Scans paths in one pass. -/
def scan (workspace : Workspace) (paths : List Path) : Except ScanFault Findings :=
  (paths.foldlM (visitPath workspace) {}).map fun pass =>
    { classes := pass.classes, fileCount := pass.fileCount }

/-- The pass that has taken up some candidates and counted some texts. -/
def ofCandidates (candidates : List Text) (fileCount : Nat) : Pass where
  classes := distinct candidates
  seen := (distinct candidates).reverse
  fileCount := fileCount

/-- The pass that has read some texts. -/
def ofTexts (texts : List Text) : Pass :=
  ofCandidates (texts.flatMap Candidate.extract) texts.length

theorem takeUp_ofCandidates (candidates : List Text) (count : Nat) (className : Text) :
    (ofCandidates candidates count).takeUp className =
      ofCandidates (candidates ++ [className]) count := by
  rw [takeUp]
  by_cases known : className ∈ candidates
  · rw [if_pos (by simpa [ofCandidates, mem_distinct_iff] using known), ofCandidates,
      ofCandidates, distinct_concat, if_pos known]
  · rw [if_neg (by simpa [ofCandidates, mem_distinct_iff] using known), ofCandidates,
      ofCandidates, distinct_concat, if_neg known]
    simp

theorem foldl_takeUp_ofCandidates (candidates more : List Text) (count : Nat) :
    more.foldl takeUp (ofCandidates candidates count) =
      ofCandidates (candidates ++ more) count := by
  induction more generalizing candidates with
  | nil => rw [List.foldl_nil, List.append_nil]
  | cons className rest ih =>
      rw [List.foldl_cons, takeUp_ofCandidates, ih, List.append_assoc, List.singleton_append]

theorem readFile_ofTexts (texts : List Text) (content : ByteArray) :
    (ofTexts texts).readFile content =
      ofTexts (texts ++ (FileTree.decode? content).toList) := by
  rw [readFile]
  cases FileTree.decode? content with
  | none => rw [Option.toList_none, List.append_nil]
  | some text =>
      have counted : { ofTexts texts with fileCount := (ofTexts texts).fileCount + 1 } =
          ofCandidates (texts.flatMap Candidate.extract) (texts.length + 1) := rfl
      dsimp only
      rw [counted, foldl_takeUp_ofCandidates, Option.toList_some, ofTexts, List.flatMap_append,
        List.length_append, List.flatMap_singleton, List.length_singleton]

mutual
/-- **Visiting what lies at a path reads its texts**, if everything below it fits. -/
theorem visit_ofTexts {workspace : Workspace} : ∀ {path : Path} {place : Place}
    {node : FileTree}, workspace.resolve path = .ok place →
      workspace.tree.at? place = some node → node.hasDistinctNames = true →
        Workspace.fits path node = true → ∀ texts,
          visit workspace (ofTexts texts) path node = .ok (ofTexts (texts ++ node.texts))
  | _, _, .file _, _, _, _, _, texts => by
      rw [visit, readFile_ofTexts, FileTree.texts]
  | _, _, .directory _, resolved, present, distinct, fits, texts => by
      rw [visit, FileTree.texts]
      exact visitEntries_ofTexts resolved present distinct (fun _ member => member) fits texts

theorem visitEntries_ofTexts {workspace : Workspace} : ∀ {path : Path} {place : Place}
    {all entries : List (Text × FileTree)}, workspace.resolve path = .ok place →
      workspace.tree.at? place = some (.directory all) →
        (FileTree.directory all).hasDistinctNames = true → (∀ entry ∈ entries, entry ∈ all) →
          Workspace.entriesFit path entries = true → ∀ texts,
            visitEntries workspace (ofTexts texts) path entries =
              .ok (ofTexts (texts ++ FileTree.textsIn entries))
  | _, _, _, [], _, _, _, _, _, texts => by
      rw [visitEntries, FileTree.textsIn, List.append_nil]
  | path, place, all, (name, node) :: rest, resolved, present, distinct, among, fit, texts => by
      obtain ⟨member, others⟩ := List.forall_mem_cons.mp among
      rw [Workspace.entriesFit, Bool.and_eq_true, Bool.and_eq_true, Bool.and_eq_true,
        decide_eq_true_eq] at fit
      obtain ⟨⟨⟨⟨proper, short⟩, passed⟩, fitsBelow⟩, restFit⟩ := fit
      obtain ⟨resolvedBelow, presentBelow⟩ :=
        Workspace.resolve_entry resolved present distinct member proper short passed
      have found := Workspace.find_eq_ok_iff.mpr ⟨_, resolvedBelow, presentBelow⟩
      have distinctBelow := (FileTree.entriesHaveDistinctNames_iff.mp distinct).2 _ member
      rw [visitEntries, found]
      dsimp only
      rw [visit_ofTexts resolvedBelow presentBelow distinctBelow fitsBelow texts]
      dsimp only
      rw [visitEntries_ofTexts resolved present distinct others restFit, FileTree.textsIn,
        List.append_assoc]
end

/-- **Listed paths are visited as they are read**, up to the first that is not found. -/
theorem foldlM_visitPath {workspace : Workspace}
    (distinct : workspace.tree.hasDistinctNames = true) {paths : List Path}
    (fit : ∀ path ∈ paths, ∀ node, workspace.find path = .ok node →
      Workspace.fits path node = true) (texts : List Text) :
    paths.foldlM (visitPath workspace) (ofTexts texts) =
      (paths.mapM (textsAt workspace)).map fun more => ofTexts (texts ++ more.flatten) := by
  induction paths generalizing texts with
  | nil =>
      have whole : texts ++ [].flatten = texts := List.append_nil texts
      rw [List.foldlM_nil, List.mapM_nil]
      exact congrArg (fun all => Except.ok (ofTexts all)) whole.symm
  | cons path rest ih =>
      obtain ⟨here, later⟩ := List.forall_mem_cons.mp fit
      rw [List.foldlM_cons, List.mapM_cons, visitPath, textsAt]
      cases found : workspace.find path with
      | error fault => rfl
      | ok node =>
          obtain ⟨place, resolved, present⟩ := Workspace.find_eq_ok_iff.mp found
          have distinctBelow := FileTree.hasDistinctNames_of_at? distinct present
          dsimp only
          rw [visit_ofTexts resolved present distinctBelow (here node found)]
          change rest.foldlM (visitPath workspace) (ofTexts (texts ++ node.texts)) = _
          rw [ih later]
          cases rest.mapM (textsAt workspace) with
          | error fault => rfl
          | ok more =>
              change Except.ok (ofTexts (texts ++ node.texts ++ more.flatten)) = _
              rw [List.append_assoc]
              rfl

theorem scan_eq_ofPaths {workspace : Workspace}
    (distinct : workspace.tree.hasDistinctNames = true) {paths : List Path}
    (fit : ∀ path ∈ paths, ∀ node, workspace.find path = .ok node →
      Workspace.fits path node = true) :
    scan workspace paths = Findings.ofPaths workspace paths := by
  rw [scan, Findings.ofPaths, show ({} : Pass) = ofTexts [] from rfl,
    foldlM_visitPath distinct fit]
  cases paths.mapM (textsAt workspace) <;> rfl

end Pass

/-! ## Scans of paths -/

theorem textsAt_of_missing {workspace : Workspace} {path : Path}
    (missing : ∀ node, workspace.find path ≠ .ok node) :
    textsAt workspace path = .error (.pathNotFound path) := by
  rw [textsAt]
  cases found : workspace.find path with
  | error fault => rfl
  | ok node => exact absurd found (missing node)

/-- **A scan of paths that are found reads the files below them**, one path after another. -/
theorem Findings.ofPaths_of_found {workspace : Workspace} {paths : List Path}
    {nodes : List FileTree}
    (found : List.Forall₂ (fun path node => workspace.find path = .ok node) paths nodes) :
    let visits := nodes.flatMap FileTree.files
    let texts := visits.filterMap fun file => FileTree.decode? file.2
    Findings.ofPaths workspace paths = .ok
      { classes := distinct (texts.flatMap Candidate.extract)
        fileCount := visits.countP fun file => (FileTree.decode? file.2).isSome } := by
  intro visits texts
  have read : paths.mapM (textsAt workspace) = .ok (nodes.map FileTree.texts) := by
    refine mapM_eq_ok_iff.mpr (List.forall₂_map_right_iff.mpr ?_)
    exact found.imp fun path node => textsAt_of_found
  have together : (nodes.map FileTree.texts).flatten = texts := by
    rw [← List.flatMap_def]
    simp only [texts, visits, List.filterMap_flatMap]
    rw [funext FileTree.texts_eq_filterMap]
  have count : texts.length = visits.countP fun file => (FileTree.decode? file.2).isSome :=
    List.length_filterMap_eq_countP
  rw [← count]
  exact Findings.ofPaths_eq_ok_iff.mpr ⟨_, read, by rw [together]⟩

/-- **A scan of paths takes up the candidates of file after file.** If a listed path is not
found, the first such path is reported. If all are, the files at or below them are visited in
the order of the list and of the directories, a file as often as it is reached; the visits to
files that hold text are counted, and the classes are the first occurrences among the candidates
of these texts. One pass that remembers the classes it has seen, and looks up every entry
again, finds the same, unless names or paths below the listed ones are too long to be followed. -/
theorem scan_visits_file_after_file (workspace : Workspace) (paths : List Path) :
    (∀ before path after, paths = before ++ path :: after →
      (∀ earlier ∈ before, ∃ node, workspace.find earlier = .ok node) →
        (∀ node, workspace.find path ≠ .ok node) →
          ∃ fault, Findings.ofPaths workspace paths = .error fault ∧
            fault.message = "path not found: ".toList ++ path.written) ∧
    ((∀ path ∈ paths, ∃ node, workspace.find path = .ok node) →
      ∃ nodes, List.Forall₂ (fun path node => workspace.find path = .ok node) paths nodes ∧
        let visits := nodes.flatMap FileTree.files
        let texts := visits.filterMap fun file => FileTree.decode? file.2
        Findings.ofPaths workspace paths = .ok
          { classes := distinct (texts.flatMap Candidate.extract)
            fileCount := visits.countP fun file => (FileTree.decode? file.2).isSome }) ∧
    (workspace.tree.hasDistinctNames = true →
      (∀ path ∈ paths, ∀ node, workspace.find path = .ok node →
        Workspace.fits path node = true) →
          Pass.scan workspace paths = Findings.ofPaths workspace paths) := by
  refine ⟨?_, ?_, fun distinct fit => Pass.scan_eq_ofPaths distinct fit⟩
  · rintro before path after rfl present missing
    have readable : ∀ earlier ∈ before, ∃ texts, textsAt workspace earlier = .ok texts := by
      intro earlier member
      obtain ⟨node, found⟩ := present earlier member
      exact ⟨_, textsAt_of_found found⟩
    have failed := textsAt_of_missing missing
    exact ⟨.pathNotFound path,
      by rw [Findings.ofPaths, mapM_eq_error_of_first readable failed], rfl⟩
  · intro present
    obtain ⟨nodes, found⟩ := exists_forall₂_iff.mpr present
    exact ⟨nodes, found, Findings.ofPaths_of_found found⟩

/-- A directory with an empty one and a file that holds no text, listed twice and once more by
the file in it. Behind these a path that is not found ends the scan. -/
theorem scan_visits_file_after_file_listed_thrice :
    let page := FileTree.encode "class='ui-open:block card'".toList
    let workspace : Workspace :=
      { tree := .directory [("a".toList, .directory [("x.html".toList, .file page),
          ("raw".toList, .file ⟨#[0xff, 0xfe]⟩), ("none".toList, .directory [])])] }
    let paths : List Path := [⟨"a".toList⟩, ⟨"a/x.html".toList⟩, ⟨"./a/".toList⟩]
    (∃ found, Findings.ofPaths workspace paths = .ok found ∧
      Pass.scan workspace paths = .ok found ∧
      found.classes = ["ui-open:block".toList, "card".toList] ∧ found.fileCount = 3) ∧
    ∃ fault, Findings.ofPaths workspace (paths ++ ⟨"b".toList⟩ :: paths) = .error fault ∧
      fault.message = "path not found: b".toList := by
  intro page workspace paths
  have present : ∀ path ∈ paths, ∃ node, workspace.find path = .ok node := by
    intro path member
    simp only [paths, List.mem_cons, List.not_mem_nil, or_false] at member
    rcases member with rfl | rfl | rfl <;> exact ⟨_, rfl⟩
  have fit : ∀ path ∈ paths, ∀ node, workspace.find path = .ok node →
      Workspace.fits path node = true := by
    intro path member node found
    simp only [paths, List.mem_cons, List.not_mem_nil, or_false] at member
    rcases member with rfl | rfl | rfl <;> cases found <;> decide +kernel
  have evaluated : Findings.ofPaths workspace paths =
      .ok { classes := ["ui-open:block".toList, "card".toList], fileCount := 3 } :=
    eq_ok_of_toOption (by decide +kernel)
  obtain ⟨-, succeeds, onePass⟩ := scan_visits_file_after_file workspace paths
  obtain ⟨nodes, -, scanned⟩ := succeeds present
  obtain ⟨fails, -, -⟩ :=
    scan_visits_file_after_file workspace (paths ++ ⟨"b".toList⟩ :: paths)
  have same := Except.ok.inj (scanned.symm.trans evaluated)
  refine ⟨⟨_, scanned, (onePass (by decide +kernel) fit).trans scanned, ?_⟩, ?_⟩
  · exact ⟨congrArg Findings.classes same, congrArg Findings.fileCount same⟩
  · exact fails paths _ paths rfl present fun node found => by cases found

end StateSheet
