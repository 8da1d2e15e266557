import StateSheet.FileTree.Workspace
import StateSheet.Proofs.FileTree.Places
import StateSheet.Proofs.Path.Enclosing

/-!
# Where paths lead

A path that can be followed leads to the place that its components lead to, one
after another, from the working directory (`place_of_resolve`). So paths with the
same components lead to the same place wherever both can be followed, however
they are written (`resolve_unique`).

A path that leads to a file ends in the name of that file
(`exists_name_of_resolve`), and so does the path of a file that is written
(`place_of_writePlace`). A path that names continue can be followed if they can
(`resolve_of_joinAll`), and the name of an entry continues the path of its directory
(`resolve_join`).
-/

set_option autoImplicit false

namespace StateSheet

/-! ## The way that components lead -/

/-- The place that a component leads to from another one. -/
def Path.Component.lead (place : Place) : Path.Component → Place
  | root => []
  | current => place
  | parent => place.dropLast
  | entry name => place ++ [name]

/-- Entries lead down to their names. -/
theorem Path.Component.foldl_lead_entries (place : Place) (names : List Text) :
    (names.map Path.Component.entry).foldl Path.Component.lead place = place ++ names := by
  induction names generalizing place with
  | nil => simp
  | cons name rest ih =>
      rw [List.map_cons, List.foldl_cons, Path.Component.lead, ih, List.append_assoc,
        List.singleton_append]

/-- The place that a path of names leads to, from the top or from the working
directory. -/
theorem Path.place_ofNames (directory : Place) (absolute : Bool) {names : List Text}
    (proper : ∀ name ∈ names, Path.IsName name) :
    (Path.ofNames absolute names).components.foldl Path.Component.lead directory =
      (if absolute then [] else directory) ++ names := by
  rw [Path.components_ofNames absolute proper, List.foldl_append,
    Path.Component.foldl_lead_entries]
  cases absolute <;> rfl

namespace Workspace

/-- The place that some segments of a path lead to. -/
def advance (place : Place) (segments : List Text) : Place :=
  (segments.filterMap Path.component?).foldl Path.Component.lead place

theorem advance_append (place : Place) (first second : List Text) :
    advance place (first ++ second) = advance (advance place first) second := by
  rw [advance, List.filterMap_append, List.foldl_append, ← advance, ← advance]

/-- A segment is followed only from a directory, and leads nowhere, up, or to an
entry. -/
theorem follow_cases {tree : FileTree} {place next : Place} {segment : Text}
    (followed : follow tree place segment = .ok next) :
    ∃ entries, tree.at? place = some (.directory entries) ∧
      (Path.isTrivial segment = true ∧ next = place ∨
        segment = ['.', '.'] ∧ next = place.dropLast ∨
        Path.component? segment = some (.entry segment) ∧ next = place ++ [segment]) := by
  unfold follow at followed
  split at followed
  · cases followed
  · cases followed
  · rename_i entries found
    refine ⟨entries, found, ?_⟩
    split at followed
    · rename_i trivial
      cases followed
      exact Or.inl ⟨trivial, rfl⟩
    · rename_i leads
      split at followed
      · rename_i up
        cases followed
        exact Or.inr (Or.inl ⟨up, rfl⟩)
      · rename_i down
        split at followed
        · cases followed
        · split at followed
          · cases followed
          · cases followed
            refine Or.inr (Or.inr ⟨?_, rfl⟩)
            rw [Path.component?, if_neg leads, if_neg down]

theorem next_of_follow {tree : FileTree} {place next : Place} {segment : Text}
    (followed : follow tree place segment = .ok next) : next = advance place [segment] := by
  obtain ⟨_, _, ⟨trivial, rfl⟩ | ⟨rfl, rfl⟩ | ⟨named, rfl⟩⟩ := follow_cases followed
  · simp [advance, Path.component?_eq_none_iff.mpr trivial]
  · rfl
  · simp [advance, named, Path.Component.lead]

theorem foldlM_follow_cons {tree : FileTree} {place last : Place} {segment : Text}
    {rest : List Text} (followed : (segment :: rest).foldlM (follow tree) place = .ok last) :
    ∃ next, follow tree place segment = .ok next ∧ rest.foldlM (follow tree) next = .ok last := by
  rw [List.foldlM_cons] at followed
  cases step : follow tree place segment with
  | error fault => rw [step] at followed; cases followed
  | ok next => rw [step] at followed; exact ⟨next, rfl, followed⟩

theorem place_of_foldlM_follow {tree : FileTree} {place last : Place} {segments : List Text}
    (followed : segments.foldlM (follow tree) place = .ok last) :
    last = advance place segments := by
  induction segments generalizing place with
  | nil =>
      cases followed
      rfl
  | cons segment rest ih =>
      obtain ⟨next, step, more⟩ := foldlM_follow_cons followed
      rw [← List.singleton_append, advance_append, ← next_of_follow step]
      exact ih more

/-- The segments of a path lead where its components lead. -/
theorem advance_start (workspace : Workspace) {path : Path} (given : path.written ≠ []) :
    advance (workspace.start path) (Text.pieces '/' path.written) =
      path.components.foldl Path.Component.lead workspace.directory := by
  cases absolute : path.isAbsolute with
  | true =>
      obtain ⟨rest, split, separated⟩ := Path.pieces_of_isAbsolute absolute
      rw [start, absolute, if_pos rfl, split, Path.components_of_absolute split separated]
      rfl
  | false =>
      obtain ⟨first, rest, split, present⟩ := Path.pieces_of_relative given absolute
      rw [start, absolute, if_neg Bool.false_ne_true, split,
        Path.components_of_relative split present, List.foldl_append, advance]
      split <;> rfl

theorem written_ne_nil_of_check {path : Path} (passed : check path = .ok ()) :
    path.written ≠ [] := by
  intro empty
  simp [check, empty] at passed

theorem resolve_eq_ok_iff {workspace : Workspace} {path : Path} {place : Place} :
    workspace.resolve path = .ok place ↔ check path = .ok () ∧
      (Text.pieces '/' path.written).foldlM (follow workspace.tree) (workspace.start path) =
        .ok place := by
  rw [resolve]
  cases check path with
  | error fault => simp
  | ok _ => simp

theorem find_eq_ok_iff {workspace : Workspace} {path : Path} {node : FileTree} :
    workspace.find path = .ok node ↔
      ∃ place, workspace.resolve path = .ok place ∧ workspace.tree.at? place = some node := by
  rw [find]
  cases workspace.resolve path with
  | error fault => simp
  | ok place => cases present : workspace.tree.at? place <;> simp [present]

/-- **A path leads where its components lead.** -/
theorem place_of_resolve {workspace : Workspace} {path : Path} {place : Place}
    (resolved : workspace.resolve path = .ok place) :
    place = path.components.foldl Path.Component.lead workspace.directory := by
  obtain ⟨passed, followed⟩ := resolve_eq_ok_iff.mp resolved
  rw [← advance_start workspace (written_ne_nil_of_check passed)]
  exact place_of_foldlM_follow followed

/-- **Paths with the same components lead to the same place**, wherever both can
be followed. -/
theorem resolve_unique {workspace : Workspace} {first second : Path} {place other : Place}
    (same : first.components = second.components)
    (firstResolved : workspace.resolve first = .ok place)
    (secondResolved : workspace.resolve second = .ok other) : place = other := by
  rw [place_of_resolve firstResolved, place_of_resolve secondResolved, same]

/-! ## Paths of files -/

/-- **A path that leads to a file ends in its name.** -/
theorem exists_name_of_resolve {workspace : Workspace} {path : Path} {place : Place}
    (resolved : workspace.resolve path = .ok place) {content : ByteArray}
    (isFile : workspace.tree.at? place = some (.file content)) :
    ∃ front name above, Text.pieces '/' path.written = front ++ [name] ∧
      Path.component? name = some (.entry name) ∧ place = above ++ [name] := by
  obtain ⟨_, followed⟩ := resolve_eq_ok_iff.mp resolved
  obtain ⟨front, last, split⟩ : ∃ front last, Text.pieces '/' path.written = front ++ [last] := by
    rcases List.eq_nil_or_concat (Text.pieces '/' path.written) with empty | ⟨front, last, split⟩
    · exact absurd empty (Text.pieces_ne_nil '/' path.written)
    · exact ⟨front, last, by rw [split, List.concat_eq_append]⟩
  rw [split, List.foldlM_append] at followed
  cases reached : front.foldlM (follow workspace.tree) (workspace.start path) with
  | error fault => rw [reached] at followed; cases followed
  | ok above =>
      rw [reached] at followed
      obtain ⟨next, step, finished⟩ := foldlM_follow_cons followed
      cases finished
      obtain ⟨entries, isDirectory, ⟨_, rfl⟩ | ⟨_, rfl⟩ | ⟨named, rfl⟩⟩ := follow_cases step
      · rw [isDirectory] at isFile
        cases isFile
      · obtain ⟨_, isDirectoryToo⟩ := FileTree.at?_dropLast isDirectory
        rw [isDirectoryToo] at isFile
        cases isFile
      · exact ⟨front, last, above, split, named, rfl⟩

/-- A path that leads to a file ends in no separator. -/
theorem unseparated_of_resolve {workspace : Workspace} {path : Path} {place : Place}
    (resolved : workspace.resolve path = .ok place) {content : ByteArray}
    (isFile : workspace.tree.at? place = some (.file content)) :
    path.written.getLast? ≠ some '/' := by
  intro separated
  obtain ⟨front, name, _, split, named, _⟩ := exists_name_of_resolve resolved isFile
  obtain ⟨shorter, written⟩ := List.getLast?_eq_some_iff.mp separated
  rw [written, Text.pieces_append_separator] at split
  obtain ⟨_, same⟩ := List.append_inj' split rfl
  cases same
  cases named

/-- Segments of which the last is given lose nothing when empty ones at their end
are dropped. -/
theorem last_of_dropWhile {segments enclosing : List Text} {name : Text}
    (shortened : segments.reverse.dropWhile (· = []) = name :: enclosing)
    (given : segments.getLast? ≠ some []) :
    name ≠ [] ∧ segments = enclosing.reverse ++ [name] := by
  rcases List.eq_nil_or_concat segments with rfl | ⟨front, last, rfl⟩
  · cases shortened
  · rw [List.concat_eq_append, List.getLast?_concat, ne_eq, Option.some.injEq] at given
    rw [List.concat_eq_append, List.reverse_concat, List.dropWhile_cons,
      decide_eq_false given, if_neg Bool.false_ne_true, List.cons.injEq] at shortened
    obtain ⟨rfl, rfl⟩ := shortened
    exact ⟨given, by simp⟩

/-- A path can be written to if all its segments but the last are followed to a directory,
and the last is a name that is short enough and that of no directory there. -/
theorem writePlace_cases {workspace : Workspace} {path : Path} {place : Place}
    (writable : workspace.writePlace path = .ok place) :
    check path = .ok () ∧ ∃ front name above,
      Text.pieces '/' path.written = front ++ [name] ∧
        Path.component? name = some (.entry name) ∧
        front.foldlM (follow workspace.tree) (workspace.start path) = .ok above ∧
        (∃ entries, workspace.tree.at? above = some (.directory entries)) ∧
        (Text.bytes name).length ≤ nameLimit ∧ place = above ++ [name] ∧
        ∀ entries, workspace.tree.at? place ≠ some (.directory entries) := by
  unfold writePlace at writable
  split at writable
  · cases writable
  · rename_i passed
    refine ⟨passed, ?_⟩
    dsimp only at writable
    split at writable
    · cases writable
    · rename_i name enclosing shortened
      split at writable
      · cases writable
      · rename_i above followed
        split at writable
        · cases writable
        · rename_i entered
          obtain ⟨entries, isDirectory, _⟩ := follow_cases entered
          split at writable
          · cases writable
          · rename_i usable
            split at writable
            · cases writable
            · rename_i short
              split at writable
              · cases writable
              · rename_i noDirectory
                cases writable
                simp only [not_or] at usable
                obtain ⟨notHere, notParent, endsInName⟩ := usable
                obtain ⟨given, split⟩ := last_of_dropWhile shortened endsInName
                refine ⟨enclosing.reverse, name, above, split, ?_, followed,
                  ⟨entries, isDirectory⟩, Nat.le_of_not_lt short, rfl, noDirectory⟩
                simp [Path.component?, Path.isTrivial, given, notHere, notParent]

/-- **A file that is written gets the place that its path leads to**, and the path
ends in its name. -/
theorem place_of_writePlace {workspace : Workspace} {path : Path} {place : Place}
    (writable : workspace.writePlace path = .ok place) :
    place = path.components.foldl Path.Component.lead workspace.directory ∧
      ∃ above name, place = above ++ [name] ∧ path.components.getLast? = some (.entry name) := by
  obtain ⟨passed, front, name, above, split, named, followed, _, _, rfl, _⟩ :=
    writePlace_cases writable
  refine ⟨?_, above, name, rfl, Path.getLast?_components split named⟩
  rw [← advance_start workspace (written_ne_nil_of_check passed), split,
    advance_append, ← place_of_foldlM_follow followed]
  simp [advance, named, Path.Component.lead]

/-! ## The way to a path -/

variable {workspace : Workspace}

/-- What a path without faults starts with has none, unless it is empty. -/
theorem check_of_isPrefix {path longer : Path} (starts : path.written <+: longer.written)
    (given : path.written ≠ []) (passed : check longer = .ok ()) : check path = .ok () := by
  have fewer : path.written.bytes.length ≤ longer.written.bytes.length := by
    obtain ⟨rest, whole⟩ := starts
    rw [← whole, Text.bytes, Text.bytes, List.flatMap_append, List.length_append]
    exact Nat.le_add_right _ _
  unfold check at passed ⊢
  split at passed
  · cases passed
  · rename_i noNul
    split at passed
    · cases passed
    · split at passed
      · cases passed
      · rename_i short
        have noNulHere : ¬ path.written.contains (Char.ofNat 0) = true := by
          intro nul
          apply noNul
          rw [List.contains_iff_mem] at nul ⊢
          exact starts.subset nul
        rw [if_neg noNulHere, if_neg given, if_neg fun long => short (long.trans fewer)]

theorem start_of_isPrefix {path longer : Path} (starts : path.written <+: longer.written)
    (given : path.written ≠ []) : workspace.start longer = workspace.start path := by
  obtain ⟨behind, whole⟩ := starts
  obtain ⟨c, more, written⟩ := List.exists_cons_of_ne_nil given
  rw [start, start, Path.isAbsolute, Path.isAbsolute, ← whole, written]
  rfl

/-- A segment that leads nowhere leads from a directory to itself. -/
theorem follow_of_isTrivial {place : Place} {entries : List (Text × FileTree)}
    (isDirectory : workspace.tree.at? place = some (.directory entries)) {segment : Text}
    (leadsNowhere : Path.isTrivial segment = true) :
    follow workspace.tree place segment = .ok place := by
  unfold follow
  rw [isDirectory]
  exact if_pos leadsNowhere

/-- **The directory that names continue a path from** is found at the path, above the names. -/
theorem resolve_of_joinAll {path : Path} (given : path.written ≠ []) {names : List Text}
    (proper : ∀ name ∈ names, Path.IsName name) {place : Place}
    (resolved : workspace.resolve (path.joinAll names) = .ok place) :
    ∃ base, workspace.resolve path = .ok base ∧ place = base ++ names := by
  cases names with
  | nil => exact ⟨place, resolved, (List.append_nil place).symm⟩
  | cons name rest =>
      have present := List.cons_ne_nil name rest
      have starts : path.written <+: (path.joinAll (name :: rest)).written := by
        rw [Path.written_joinAll path proper present]
        exact path.written_isPrefix_asDirectory.trans (List.prefix_append _ _)
      obtain ⟨passed, followed⟩ := resolve_eq_ok_iff.mp resolved
      obtain ⟨front, split, pathFront⟩ := Path.pieces_joinAll given proper present
      rw [split, start_of_isPrefix starts given, List.foldlM_append] at followed
      cases reached : front.foldlM (follow workspace.tree) (workspace.start path) with
      | error fault => rw [reached] at followed; cases followed
      | ok base =>
          rw [reached] at followed
          refine ⟨base, resolve_eq_ok_iff.mpr ⟨check_of_isPrefix starts given passed, ?_⟩, ?_⟩
          · rcases pathFront with whole | shortened
            · rw [whole, reached]
            · obtain ⟨next, step, _⟩ := foldlM_follow_cons followed
              obtain ⟨entries, isDirectory, _⟩ := follow_cases step
              rw [shortened, List.foldlM_append, reached]
              exact (bind_pure _).trans (follow_of_isTrivial isDirectory rfl)
          · rw [place_of_foldlM_follow followed, advance,
              Path.filterMap_component?_of_names proper, Path.Component.foldl_lead_entries]

/-- **An entry of a directory is found at the path of the directory continued by its name**,
if name and path are not too long. -/
theorem resolve_join {path : Path} {place : Place} (resolved : workspace.resolve path = .ok place)
    {entries : List (Text × FileTree)}
    (isDirectory : workspace.tree.at? place = some (.directory entries)) {name : Text}
    (proper : Path.IsName name) (short : (Text.bytes name).length ≤ nameLimit) {node : FileTree}
    (entered : FileTree.child? name entries = some node)
    (passed : check (path.join name) = .ok ()) :
    workspace.resolve (path.join name) = .ok (place ++ [name]) := by
  obtain ⟨checked, followed⟩ := resolve_eq_ok_iff.mp resolved
  have given := written_ne_nil_of_check checked
  have names : ∀ other ∈ [name], Path.IsName other := List.forall_mem_singleton.mpr proper
  obtain ⟨front, split, pathFront⟩ : ∃ front,
      Text.pieces '/' (path.join name).written = front ++ [name] ∧
        (Text.pieces '/' path.written = front ∨ Text.pieces '/' path.written = front ++ [[]]) :=
    Path.pieces_joinAll given names (List.cons_ne_nil _ _)
  have starts : path.written <+: (path.join name).written := by
    rw [Path.written_join]
    exact path.written_isPrefix_asDirectory.trans (List.prefix_append _ _)
  have reached : front.foldlM (follow workspace.tree) (workspace.start path) = .ok place := by
    rcases pathFront with whole | shortened
    · rwa [whole] at followed
    · rw [shortened, List.foldlM_append] at followed
      cases before : front.foldlM (follow workspace.tree) (workspace.start path) with
      | error fault => rw [before] at followed; cases followed
      | ok base =>
          rw [before] at followed
          obtain ⟨next, step, rest⟩ := foldlM_follow_cons followed
          obtain ⟨_, baseIsDirectory, _⟩ := follow_cases step
          rw [follow_of_isTrivial baseIsDirectory rfl] at step
          cases step
          exact rest
  have last : follow workspace.tree place name = .ok (place ++ [name]) := by
    unfold follow
    rw [isDirectory]
    dsimp only
    rw [if_neg (by simp [proper.isTrivial]), if_neg proper.notParent,
      if_neg (Nat.not_lt.mpr short), entered]
  refine resolve_eq_ok_iff.mpr ⟨passed, ?_⟩
  rw [split, start_of_isPrefix starts given, List.foldlM_append, reached]
  exact (bind_pure _).trans last

/-- The working directory is where it is, if any path leads on from there. -/
theorem resolve_here {path : Path} (relative : path.isAbsolute = false) {place : Place}
    (resolved : workspace.resolve path = .ok place) :
    workspace.resolve Glob.here = .ok workspace.directory := by
  obtain ⟨passed, followed⟩ := resolve_eq_ok_iff.mp resolved
  obtain ⟨first, rest, split, _⟩ :=
    Path.pieces_of_relative (written_ne_nil_of_check passed) relative
  rw [split, start, relative, if_neg Bool.false_ne_true] at followed
  obtain ⟨next, step, _⟩ := foldlM_follow_cons followed
  obtain ⟨entries, isDirectory, _⟩ := follow_cases step
  refine resolve_eq_ok_iff.mpr ⟨by decide, ?_⟩
  exact (bind_pure _).trans (follow_of_isTrivial isDirectory rfl)

end Workspace

end StateSheet
