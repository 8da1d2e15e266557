import StateSheet.Proofs.Command.Watching
import StateSheet.Proofs.Glob.Root
import StateSheet.Proofs.Scan.Selection
import StateSheet.Proofs.Walk

/-!
# Changes to scanned files

A scan compares its ignore globs with the path of a file as walked and as seen from the
root of the walk. A watch compares the same globs with the absolute path of the file, and
with its path as seen from the working directory. If the root is relative, and no dot that
goes on, the latter is one of the two paths that the scan compares
(`Selects.isMatch_trimmed`).

So a change to a scanned file is passed over exactly when an ignore glob matches the
absolute path (`scanned_change_ignored_iff`), which no walk from a relative root shows. A
glob can match there because of where the workspace lies, and behind a root such as `./src`
it can match the path without the dot (`scanned_change_ignored_by_unseen_spelling`).
-/

set_option autoImplicit false

namespace StateSheet

variable {workspace : Workspace}

/-- Does a path start with a dot and go on behind it? -/
def Path.goesOnBehindDot (path : Path) : Bool :=
  match path.components with
  | .current :: _ :: _ => true
  | _ => false

/-- A relative path that starts with a dot and does not go on is a dot. -/
theorem Path.components_of_dot {path : Path} {rest : List Text}
    (split : Text.pieces '/' path.written = ['.'] :: rest)
    (plain : path.goesOnBehindDot = false) : path.components = [.current] := by
  have components := components_of_relative split (List.cons_ne_nil _ _)
  rw [if_pos rfl, List.filterMap_cons_none rfl, List.singleton_append] at components
  rw [goesOnBehindDot, components] at plain
  cases behind : rest.filterMap component? with
  | nil => rw [components, behind]
  | cons component more =>
      rw [behind] at plain
      cases plain

/-- Walks from relative roots show relative paths. -/
theorem isAbsolute_of_walked (wellNamed : workspace.tree.WellNamed) {respectsRepository : Bool}
    {root path : Path} (relative : root.isAbsolute = false)
    (walked : path ∈ walk workspace respectsRepository root) : path.isAbsolute = false := by
  obtain ⟨_, _, _, _, _, _, visible, split, _⟩ := pieces_of_walked wellNamed relative walked
  exact Path.isAbsolute_of_pieces split visible

/-- **No ignore glob matches a selected path without the segments at its ends that lead
nowhere**, if the walk started from a relative root that is no dot that goes on. -/
theorem Selects.isMatch_trimmed {ignore : Globs} {root path : Path} {pattern : Text}
    (selected : Selects workspace ignore root pattern path)
    (wellNamed : workspace.tree.WellNamed) (relative : root.isAbsolute = false)
    (plain : root.goesOnBehindDot = false) : ignore.isMatch path.trimmed = false := by
  obtain ⟨walked, notIgnored, _⟩ := selected.kept
  rw [matchesFrom, Bool.or_eq_false_iff] at notIgnored
  obtain ⟨notSeen, notWalked⟩ := notIgnored
  obtain ⟨first, rest, more, front, last, rootSplit, visible, split, splitLast, leads⟩ :=
    pieces_of_walked wellNamed relative walked
  by_cases here : first = ['.']
  · subst here
    rwa [Path.relativeTo?_of_dot (Path.components_of_dot rootSplit plain) split,
      Option.getD_some] at notSeen
  · have starts : Path.isTrivial first = false := by simp [Path.isTrivial, visible, here]
    rwa [Path.trimmed_eq_self split starts splitLast leads]

/-- Does a build with these ignore globs scan the file at a path? -/
def BuildOrder.ScansPath (order : BuildOrder) (workspace : Workspace) (ignore : Globs)
    (path : Path) : Prop :=
  Globs.read order.ignoreGlobs = .ok ignore ∧
    ∃ paths, selectedPaths workspace ignore order.selection.inputs = .ok paths ∧ path ∈ paths

/-- That a path is scanned, and what else is asked of the ignore globs, is known from
evaluating both. -/
theorem BuildOrder.ScansPath.of_toOption {order : BuildOrder} {path : Path}
    {judge : Globs → Bool}
    (evaluated : (Globs.read order.ignoreGlobs).toOption.bind (fun ignore =>
      (selectedPaths workspace ignore order.selection.inputs).toOption.map fun paths =>
        (decide (path ∈ paths), judge ignore)) = some (true, true)) :
    ∃ ignore, order.ScansPath workspace ignore path ∧ judge ignore = true := by
  obtain ⟨ignore, valid, outcome⟩ := Option.bind_eq_some_iff.mp evaluated
  obtain ⟨paths, selected, known⟩ := Option.map_eq_some_iff.mp outcome
  rw [Prod.mk.injEq, decide_eq_true_eq] at known
  exact ⟨ignore, ⟨eq_ok_of_toOption valid, paths, eq_ok_of_toOption selected, known.1⟩, known.2⟩

/-- **A change to a scanned file is passed over exactly when an ignore glob matches its
absolute path**, however the working directory is written. The inputs are relative, and no
input whose walk comes to the file has a dot that goes on for a root. -/
theorem scanned_change_ignored_iff {order : BuildOrder} {ignore : Globs} {path : Path}
    (scanned : order.ScansPath workspace ignore path) (wellNamed : workspace.tree.WellNamed)
    {directory : Path} (absolute : directory.isAbsolute = true)
    (relative : ∀ input ∈ order.selection.inputs, (⟨input⟩ : Path).isAbsolute = false)
    (plain : ∀ input ∈ order.selection.inputs, path ∈ walk workspace true (Glob.root input) →
      (Glob.root input).goesOnBehindDot = false) :
    Watching.ignoresChange (some ignore) (some directory) [directory.append path] = true ↔
      ignore.isMatch (directory.append path) = true := by
  obtain ⟨_, paths, selected, kept⟩ := scanned
  obtain ⟨root, walkedRoot, pattern, _, selects⟩ := mem_selectedPaths selected kept
  obtain ⟨input, among, rfl⟩ := exists_pattern_of_mem_patternRoots walkedRoot
  have rootRelative := Glob.isAbsolute_root (relative input among)
  have walked := selects.kept.1
  rw [Watching.ignoresChange_append_iff ignore absolute
      (isAbsolute_of_walked wellNamed rootRelative walked),
    selects.isMatch_trimmed wellNamed rootRelative (plain input among walked)]
  simp only [Bool.false_eq_true, or_false]

/-- A page below a working directory that is itself written with a dot, and ignore globs of
which one matches other absolute paths. A change to the page is not passed over. -/
theorem scanned_change_ignored_iff_below_dot :
    let order : BuildOrder :=
      { selection := { inputs := ["*.html".toList], ignore := ["/srv/*".toList, "draft/*".toList] }
        output? := some "dist/x.css".toList }
    let workspace : Workspace :=
      { tree := .directory [("web".toList, .directory [("src".toList, .directory
          [("a.html".toList, .file (FileTree.encode "class='ui-open:block'".toList))])])]
        directory := ["web".toList] }
    ∃ ignore, order.ScansPath workspace ignore ⟨"./src/a.html".toList⟩ ∧
      Watching.ignoresChange (some ignore) (some ⟨"/./web".toList⟩)
        [(⟨"/./web".toList⟩ : Path).append ⟨"./src/a.html".toList⟩] = false := by
  intro order workspace
  obtain ⟨ignore, scanned, unmatched⟩ : ∃ ignore,
      order.ScansPath workspace ignore ⟨"./src/a.html".toList⟩ ∧
        (!ignore.isMatch ((⟨"/./web".toList⟩ : Path).append ⟨"./src/a.html".toList⟩)) = true :=
    BuildOrder.ScansPath.of_toOption (by decide +kernel)
  have absolute : (⟨"/./web".toList⟩ : Path).isAbsolute = true := by decide
  have agrees := scanned_change_ignored_iff scanned (by decide +kernel) absolute (by decide)
    (by decide)
  refine ⟨ignore, scanned, ?_⟩
  rw [← Bool.not_eq_true, agrees]
  simpa using unmatched

/-- **Changes to scanned files are passed over for spellings that no scan sees**: a glob for a
directory matches the absolute path if the workspace lies in one of that name, and a glob for
a file matches its path without the dot that the root of the walk starts with. -/
theorem scanned_change_ignored_by_unseen_spelling :
    let workspace : Workspace :=
      { tree := .directory [("dist".toList, .directory [("src".toList, .directory
          [("a.html".toList, .file (FileTree.encode "class='ui-open:block'".toList))])])]
        directory := ["dist".toList] }
    let surrounded : BuildOrder :=
      { selection := { inputs := ["src/*.html".toList], ignore := ["**/dist/**".toList] } }
    let dotted : BuildOrder :=
      { selection := { inputs := ["./src/*.html".toList], ignore := ["src/a.html".toList] } }
    (∃ ignore, surrounded.ScansPath workspace ignore ⟨"src/a.html".toList⟩ ∧
        Watching.ignoresChange (some ignore) (some ⟨"/dist".toList⟩)
          [(⟨"/dist".toList⟩ : Path).append ⟨"src/a.html".toList⟩] = true) ∧
      ∃ ignore, dotted.ScansPath workspace ignore ⟨"./src/a.html".toList⟩ ∧
        Watching.ignoresChange (some ignore) (some ⟨"/dist".toList⟩)
          [(⟨"/dist".toList⟩ : Path).append ⟨"./src/a.html".toList⟩] = true :=
  ⟨BuildOrder.ScansPath.of_toOption (by decide +kernel),
    BuildOrder.ScansPath.of_toOption (by decide +kernel)⟩

end StateSheet
