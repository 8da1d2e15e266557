import StateSheet.Proofs.Command.Watching
import StateSheet.Proofs.Scan.Selection
import StateSheet.Proofs.Walk.PlainRoot

/-!
# The output of a build among its sources

A build that succeeds has scanned its inputs and has a place for its output
(`BuildOrder.scanned_of_build`). What keeps it from scanning the file at that place
is the path of the output, which is one more ignore glob, and the kind of the file.

A scan reads no file with an extension that is passed over, and the extension of a
file is that of all paths that lead to it (`extension?_of_resolve`). Otherwise the
glob has to match the path by which a walk comes to the file. It does if the output
and the roots of all inputs are plain: written by names and single separators, and
all from the top or all from the working directory (`PlainOutput.place_ne`).

Both together keep a build from scanning its output (`build_scans_no_output`). With a
dot in front of its path the output is scanned (`output_with_dot_is_scanned`).
-/

set_option autoImplicit false

namespace StateSheet

variable {workspace : Workspace} {order : BuildOrder} {output : Text}

/-! ## Successful builds -/

/-- A build that succeeds has scanned its inputs and has a place for its output. -/
theorem BuildOrder.scanned_of_build (given : order.output? = some output)
    (succeeded : (order.build workspace).result = .ok ()) :
    (∃ found, Findings.ofGlobs workspace order.selection.inputs order.ignoreGlobs = .ok found) ∧
      ∃ place, workspace.writePlace ⟨output⟩ = .ok place := by
  unfold build at succeeded
  split at succeeded
  · cases succeeded
  · split at succeeded
    · cases succeeded
    · rename_i found scanned
      simp only [given] at succeeded
      refine ⟨⟨found, scanned⟩, ?_⟩
      cases writable : workspace.writePlace ⟨output⟩ with
      | ok place => exact ⟨place, rfl⟩
      | error fault =>
          rw [Workspace.writeText, writable] at succeeded
          cases succeeded

/-- What a scan reads at the place of an output is a file: the place is no
directory. -/
theorem exists_file_of_scanned {paths : List Path} {found : Findings}
    (scanned : Findings.ofPaths workspace paths = .ok found) {path : Path}
    (member : path ∈ paths) {place : Place} (resolved : workspace.resolve path = .ok place)
    (writable : workspace.writePlace ⟨output⟩ = .ok place) :
    ∃ content, workspace.tree.at? place = some (.file content) := by
  obtain ⟨other, node, otherResolved, present⟩ := Findings.present_of_ofPaths scanned member
  cases resolved.symm.trans otherResolved
  obtain ⟨_, _, _, _, _, _, _, _, _, _, noDirectory⟩ := Workspace.writePlace_cases writable
  cases node with
  | file content => exact ⟨content, present⟩
  | directory entries => exact absurd present (noDirectory entries)

/-! ## Outputs that are passed over -/

/-- Is a path passed over in scans for its extension? -/
def Path.hasSkippedExtension (path : Path) : Bool :=
  path.extension?.any fun extension => skippedExtensions.contains (extension.map Char.toLower)

/-- **Paths that lead to one file have the same extension**, if the file can be
written to by one of them. -/
theorem extension?_of_resolve {path : Path} {place : Place}
    (resolved : workspace.resolve path = .ok place) {content : ByteArray}
    (isFile : workspace.tree.at? place = some (.file content))
    (writable : workspace.writePlace ⟨output⟩ = .ok place) :
    path.extension? = (⟨output⟩ : Path).extension? := by
  obtain ⟨front, name, above, split, named, rfl⟩ :=
    Workspace.exists_name_of_resolve resolved isFile
  obtain ⟨_, otherAbove, other, samePlace, otherNamed⟩ := Workspace.place_of_writePlace writable
  obtain ⟨rfl, sameName⟩ := List.append_inj' samePlace rfl
  cases sameName
  rw [Path.extension?, Path.extension?, Path.getLast?_components split named, otherNamed]

/-- Selected paths have no extension that is passed over. -/
theorem Selects.hasSkippedExtension {ignore : Globs} {root path : Path} {pattern : Text}
    (selected : Selects workspace ignore root pattern path) :
    path.hasSkippedExtension = false := by
  obtain ⟨_, _, notSkipped⟩ := selected.kept
  rw [isSkipped, Bool.or_eq_false_iff] at notSkipped
  exact notSkipped.2

/-! ## Plain outputs -/

/-- An output and the input globs of a build are plain: the output is a path of names
that opens nothing as a glob, and the roots of all inputs see its file by that path. -/
structure PlainOutput (absolute : Bool) (names : List Text) (output : Text)
    (inputs : List Text) : Prop where
  proper : ∀ name ∈ names, Path.IsName name
  present : names ≠ []
  spelled : output = (Path.ofNames absolute names).written
  unopened : ∀ c ∈ output, Glob.isOpening c = false
  roots : ∀ input ∈ inputs, PlainRoot absolute (Glob.root input)

/-- **A plain output is at no place that a selected path leads to.** -/
theorem PlainOutput.place_ne {absolute : Bool} {names inputs : List Text}
    (plain : PlainOutput absolute names output inputs) (wellNamed : workspace.tree.WellNamed)
    (given : order.output? = some output) {ignore : Globs}
    (ignoreRead : Globs.read order.ignoreGlobs = .ok ignore) {input pattern : Text}
    (among : input ∈ inputs) {path : Path}
    (selected : Selects workspace ignore (Glob.root input) pattern path) :
    path.components.foldl Path.Component.lead workspace.directory ≠
      (⟨output⟩ : Path).components.foldl Path.Component.lead workspace.directory := by
  intro samePlace
  obtain ⟨walked, notIgnored, _⟩ := selected.kept
  obtain ⟨others, othersProper, othersPresent, place, view⟩ :=
    (plain.roots input among).view wellNamed walked
  have outputPath : (⟨output⟩ : Path) = Path.ofNames absolute names := by
    rw [plain.spelled]
  rw [place, outputPath, Path.place_ofNames workspace.directory absolute plain.proper,
    List.append_cancel_left_eq] at samePlace
  subst samePlace
  have named : (⟨output⟩ : Path).endsInParent = false := by
    rw [outputPath]
    exact Path.endsInParent_ofNames absolute plain.proper plain.present
  have ignored := order.ignoreGlobs_match_output given plain.unopened named ignoreRead
  rw [outputPath] at ignored
  rw [matchesFrom_of_view view ignored] at notIgnored
  cases notIgnored

/-! ## Builds -/

/-- **A build scans no output of its own.** If it succeeds, its output has a place, and
no file at that place has been scanned: not if the extension of the output is passed
over, however the output is written, and not if the output and the inputs are plain. -/
theorem build_scans_no_output (wellNamed : workspace.tree.WellNamed)
    (given : order.output? = some output)
    (succeeded : (order.build workspace).result = .ok ())
    (apart : (⟨output⟩ : Path).hasSkippedExtension = true ∨
      ∃ absolute names, PlainOutput absolute names output order.selection.inputs) :
    ∃ place, workspace.writePlace ⟨output⟩ = .ok place ∧
      ¬ Scans workspace order.selection.inputs order.ignoreGlobs place := by
  obtain ⟨⟨found, scanned⟩, place, writable⟩ := order.scanned_of_build given succeeded
  refine ⟨place, writable, ?_⟩
  obtain ⟨_, ignoreGlobs, paths, ignoreRead, whole, pathsScanned⟩ :=
    Findings.ofGlobs_eq_ok_iff.mp scanned
  rw [Scans.of_selected ignoreRead whole]
  rintro ⟨path, kept, resolved⟩
  obtain ⟨root, walkedRoot, pattern, _, selected⟩ := mem_selectedPaths whole kept
  rcases apart with skipped | ⟨absolute, names, plain⟩
  · obtain ⟨content, isFile⟩ := exists_file_of_scanned pathsScanned kept resolved writable
    have sameExtension := extension?_of_resolve resolved isFile writable
    have keptExtension := selected.hasSkippedExtension
    rw [Path.hasSkippedExtension, sameExtension, ← Path.hasSkippedExtension, skipped]
      at keptExtension
    cases keptExtension
  · obtain ⟨input, among, rfl⟩ := exists_pattern_of_mem_patternRoots walkedRoot
    apply plain.place_ne wellNamed given ignoreRead among selected
    rw [← Workspace.place_of_resolve resolved]
    exact (Workspace.place_of_writePlace writable).1

/-- A build below `work` with an output that both of its globs match, in a walk from the
working directory. -/
theorem build_scans_no_output_of_wildcards :
    let order : BuildOrder :=
      { selection := { inputs := ["**/*.html".toList, "d*/x.*".toList] }
        output? := some "dist/x.html".toList }
    let workspace : Workspace :=
      { tree := .directory [("work".toList, .directory [("dist".toList, .directory
          [("x.html".toList, .file (FileTree.encode "class='ui-open:block'".toList))])])]
        directory := ["work".toList] }
    (order.build workspace).result.toOption = some () ∧
      ¬ Scans workspace order.selection.inputs order.ignoreGlobs
        ["work".toList, "dist".toList, "x.html".toList] := by
  intro order workspace
  have wellNamed : workspace.tree.WellNamed := by decide +kernel
  have succeeded : (order.build workspace).result.toOption = some () := by decide +kernel
  have plain : PlainOutput false ["dist".toList, "x.html".toList] "dist/x.html".toList
      order.selection.inputs :=
    { proper := by decide
      present := by decide
      spelled := by decide
      unopened := by simp [Glob.isOpening]
      roots := by
        intro input among
        have root : Glob.root input = Glob.here := by
          rcases List.mem_pair.mp among with rfl | rfl
          · decide
          · decide
        rw [root]
        exact .here rfl }
  obtain ⟨place, writable, notScanned⟩ := build_scans_no_output wellNamed rfl
    (eq_ok_of_toOption succeeded) (Or.inr ⟨_, _, plain⟩)
  have expected : (workspace.writePlace ⟨"dist/x.html".toList⟩).toOption =
      some ["work".toList, "dist".toList, "x.html".toList] := by decide +kernel
  cases writable.symm.trans (eq_ok_of_toOption expected)
  exact ⟨succeeded, notScanned⟩

/-- **An output with a dot in front is scanned**: the walk from the root of the input
comes to it by a path without the dot, which its glob does not match. -/
theorem output_with_dot_is_scanned :
    let order : BuildOrder :=
      { selection := { inputs := ["dist/*.html".toList] }
        output? := some "./dist/x.html".toList }
    let workspace : Workspace :=
      { tree := .directory [("dist".toList, .directory
          [("x.html".toList, .file (FileTree.encode "<p class=\"ui-open:block\">".toList))])] }
    (order.build workspace).result.toOption = some () ∧
      ∃ place, workspace.writePlace ⟨"./dist/x.html".toList⟩ = .ok place ∧
        Scans workspace order.selection.inputs order.ignoreGlobs place := by
  intro order workspace
  have succeeded : (order.build workspace).result.toOption = some () := by decide +kernel
  have selected : (Globs.read order.ignoreGlobs).toOption.bind (fun ignore =>
      (selectedPaths workspace ignore order.selection.inputs).toOption) =
        some [⟨"dist/x.html".toList⟩] := by decide +kernel
  have written : (workspace.writePlace ⟨"./dist/x.html".toList⟩).toOption =
      some ["dist".toList, "x.html".toList] := by decide +kernel
  have reached : (workspace.resolve ⟨"dist/x.html".toList⟩).toOption =
      some ["dist".toList, "x.html".toList] := by decide +kernel
  refine ⟨succeeded, _, eq_ok_of_toOption written, ?_⟩
  exact Scans.of_toOption selected List.mem_cons_self (eq_ok_of_toOption reached)

end StateSheet
