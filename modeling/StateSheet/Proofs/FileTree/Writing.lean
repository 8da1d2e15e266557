import StateSheet.Proofs.FileTree.Resolve

/-!
# Written files

A file that is put into a tree lies at its place (`FileTree.at?_put`). If the place is in a
directory of the tree and is no directory itself, everything else stays as it was: every
other place holds the same file as before, or a directory if it held one, or nothing
(`FileTree.contentAt?_put`).

So paths lead where they led before, and the path of the written file leads to it
(`Workspace.written_of_writePlace`). Together this is what writing a text does to a workspace
(`Workspace.Rewritten`, `Workspace.rewritten_of_writeText`).
-/

set_option autoImplicit false

namespace StateSheet

namespace FileTree

/-! ## Putting files into trees -/

theorem child?_writeEntry (name sought : Text) (node : FileTree)
    (entries : List (Text × FileTree)) :
    child? sought (writeEntry name node entries) =
      if sought = name then some node else child? sought entries := by
  induction entries with
  | nil => simp [writeEntry, child?, eq_comm]
  | cons entry rest ih =>
      rw [writeEntry]
      by_cases same : entry.1 = name
      · subst same
        by_cases here : sought = entry.1
        · subst here
          simp [child?]
        · simp [child?, here, Ne.symm here]
      · rw [if_neg same, child?, ih, child?]
        by_cases here : sought = name
        · subst here
          simp [same]
        · rw [if_neg here, if_neg here]

theorem put_nil (tree node : FileTree) : tree.put [] node = node := by
  rw [put.eq_def]

theorem put_cons (tree : FileTree) (name : Text) (place : Place) (node : FileTree) :
    tree.put (name :: place) node =
      directory (writeEntry name
        (((child? name tree.entries).getD (directory [])).put place node) tree.entries) := by
  rw [put.eq_def]

/-- What is put at a place lies there. -/
theorem at?_put (tree : FileTree) (place : Place) (node : FileTree) :
    (tree.put place node).at? place = some node := by
  induction place generalizing tree with
  | nil => rw [put_nil, at?_nil]
  | cons name rest ih =>
      rw [put_cons, at?_cons, entries, child?_writeEntry, if_pos rfl, Option.bind_some]
      exact ih _

/-- What lies at a place as seen from outside: nothing, a directory, or a file with its
content. -/
def contentAt? (tree : FileTree) (place : Place) : Option (Option ByteArray) :=
  (tree.at? place).map content?

theorem contentAt?_nil (entries : List (Text × FileTree)) :
    (directory entries).contentAt? [] = some none := by
  rw [contentAt?, at?_nil]
  rfl

theorem contentAt?_cons (entries : List (Text × FileTree)) (name : Text) (place : Place) :
    (directory entries).contentAt? (name :: place) =
      (child? name entries).bind fun node => node.contentAt? place := by
  rw [contentAt?, at?_cons, Option.map_bind]
  rfl

theorem contentAt?_eq_some_none_iff {tree : FileTree} {place : Place} :
    tree.contentAt? place = some none ↔ ∃ entries, tree.at? place = some (.directory entries) := by
  rw [contentAt?]
  cases tree.at? place with
  | none => simp
  | some node => cases node <;> simp [content?]

/-- Nothing lies below a file. -/
theorem contentAt?_file_cons (content : ByteArray) (name : Text) (place : Place) :
    (file content).contentAt? (name :: place) = none := by
  rw [contentAt?, at?_cons]
  rfl

/-- A file that is put among some entries changes nothing at any other place, unless it takes
the place of a directory. -/
theorem contentAt?_put_entry {below : List (Text × FileTree)} {name : Text} (content : ByteArray)
    (noDirectory : (directory below).contentAt? [name] ≠ some none) {other : Place}
    (different : other ≠ [name]) :
    ((directory below).put [name] (file content)).contentAt? other =
      (directory below).contentAt? other := by
  rw [put_cons, put_nil]
  cases other with
  | nil => rw [contentAt?_nil, contentAt?_nil]
  | cons first rest =>
      rw [entries, contentAt?_cons, contentAt?_cons, child?_writeEntry]
      by_cases same : first = name
      · subst same
        -- Nothing lies below the written file, nor below what was there before.
        cases rest with
        | nil => exact absurd rfl different
        | cons second more =>
            rw [if_pos rfl, Option.bind_some, contentAt?_file_cons]
            rw [contentAt?_cons] at noDirectory
            cases found : child? first below with
            | none => rfl
            | some node =>
                rw [found, Option.bind_some] at noDirectory
                cases node with
                | file _ => rw [Option.bind_some, contentAt?_file_cons]
                | directory _ => exact absurd (contentAt?_nil _) noDirectory
      · rw [if_neg same]

/-- **A file that is put into a directory changes nothing at any other place**, unless it
takes the place of a directory. -/
theorem contentAt?_put {tree : FileTree} {above : Place} {name : Text} (content : ByteArray)
    (enclosed : tree.contentAt? above = some none)
    (noDirectory : tree.contentAt? (above ++ [name]) ≠ some none) {other : Place}
    (different : other ≠ above ++ [name]) :
    (tree.put (above ++ [name]) (file content)).contentAt? other = tree.contentAt? other := by
  induction above generalizing tree other with
  | nil =>
      obtain ⟨below, isDirectory⟩ := contentAt?_eq_some_none_iff.mp enclosed
      rw [at?_nil, Option.some.injEq] at isDirectory
      subst isDirectory
      exact contentAt?_put_entry content noDirectory different
  | cons top above ih =>
      cases tree with
      | file _ =>
          rw [contentAt?_file_cons] at enclosed
          cases enclosed
      | directory below =>
          rw [contentAt?_cons, Option.bind_eq_some_iff] at enclosed
          obtain ⟨node, entered, enclosedBelow⟩ := enclosed
          rw [List.cons_append, contentAt?_cons, entered, Option.bind_some] at noDirectory
          rw [List.cons_append, put_cons, entries, entered, Option.getD_some]
          cases other with
          | nil => rw [contentAt?_nil, contentAt?_nil]
          | cons first rest =>
              rw [contentAt?_cons, contentAt?_cons, child?_writeEntry]
              by_cases same : first = top
              · subst same
                rw [if_pos rfl, entered, Option.bind_some, Option.bind_some]
                refine ih enclosedBelow noDirectory fun sameRest => different ?_
                rw [sameRest, List.cons_append]
              · rw [if_neg same]

/-! ## Trees with more in them -/

/-- Is every directory of a tree a directory of a later one, and is there something in the
later one wherever there is something in the tree? -/
structure Keeps (tree later : FileTree) : Prop where
  directories : ∀ place, tree.contentAt? place = some none → later.contentAt? place = some none
  present : ∀ place, tree.contentAt? place ≠ none → later.contentAt? place ≠ none

/-- A tree with a file put into a directory keeps what it had. -/
theorem keeps_put {tree : FileTree} {above : Place} {name : Text} (content : ByteArray)
    (enclosed : tree.contentAt? above = some none)
    (noDirectory : tree.contentAt? (above ++ [name]) ≠ some none) :
    tree.Keeps (tree.put (above ++ [name]) (file content)) where
  directories place isDirectory := by
    rw [contentAt?_put content enclosed noDirectory, isDirectory]
    rintro rfl
    exact noDirectory isDirectory
  present place isPresent := by
    by_cases same : place = above ++ [name]
    · rw [same, contentAt?, at?_put]
      exact Option.some_ne_none _
    · rwa [contentAt?_put content enclosed noDirectory same]

end FileTree

/-! ## Writing to paths -/

namespace Workspace

/-- What can be followed in a tree can be followed in a tree with more in it. -/
theorem follow_of_keeps {tree later : FileTree} (keeps : tree.Keeps later) {place next : Place}
    {segment : Text} (followed : follow tree place segment = .ok next) :
    follow later place segment = .ok next := by
  obtain ⟨entries, isDirectory, _⟩ := follow_cases followed
  obtain ⟨more, stillDirectory⟩ := FileTree.contentAt?_eq_some_none_iff.mp
    (keeps.directories place (FileTree.contentAt?_eq_some_none_iff.mpr ⟨entries, isDirectory⟩))
  simp only [follow, isDirectory] at followed
  simp only [follow, stillDirectory]
  have entered : FileTree.child? segment entries ≠ none →
      FileTree.child? segment more ≠ none := by
    intro given missing
    obtain ⟨node, found⟩ := Option.ne_none_iff_exists'.mp given
    refine keeps.present (place ++ [segment]) ?_ ?_
    · simp [FileTree.contentAt?, FileTree.at?_append, isDirectory, FileTree.at?_cons,
        FileTree.entries, found]
    · simp [FileTree.contentAt?, FileTree.at?_append, stillDirectory, FileTree.at?_cons,
        FileTree.entries, missing]
  split at followed
  · rw [if_pos ‹_›, followed]
  · rw [if_neg ‹_›]
    split at followed
    · rw [if_pos ‹_›, followed]
    · rw [if_neg ‹_›]
      split at followed
      · cases followed
      · rw [if_neg ‹_›]
        cases given : FileTree.child? segment entries with
        | none => rw [given] at followed; cases followed
        | some node =>
            obtain ⟨other, found⟩ :=
              Option.ne_none_iff_exists'.mp (entered (by simp [given]))
            rw [given] at followed
            rw [found]
            exact followed

theorem foldlM_follow_of_keeps {tree later : FileTree} (keeps : tree.Keeps later)
    {place last : Place} {segments : List Text}
    (followed : segments.foldlM (follow tree) place = .ok last) :
    segments.foldlM (follow later) place = .ok last := by
  induction segments generalizing place with
  | nil => exact followed
  | cons segment rest ih =>
      obtain ⟨next, step, more⟩ := foldlM_follow_cons followed
      rw [List.foldlM_cons, follow_of_keeps keeps step]
      exact ih more

variable {workspace : Workspace} {path : Path} {place : Place}

/-- **The path of a file that is written leads to it**, and the tree keeps all else. -/
theorem written_of_writePlace (writable : workspace.writePlace path = .ok place)
    (content : ByteArray) :
    resolve { workspace with tree := workspace.tree.put place (.file content) } path =
        .ok place ∧
      ∀ other, other = place ∨
        (workspace.tree.put place (.file content)).contentAt? other =
          workspace.tree.contentAt? other := by
  obtain ⟨passed, front, name, above, split, named, followed, isDirectory, short, rfl, isNone⟩ :=
    writePlace_cases writable
  have enclosed := FileTree.contentAt?_eq_some_none_iff.mpr isDirectory
  have noDirectory : workspace.tree.contentAt? (above ++ [name]) ≠ some none := by
    rw [ne_eq, FileTree.contentAt?_eq_some_none_iff, not_exists]
    exact isNone
  have keeps := FileTree.keeps_put content enclosed noDirectory
  have reached := foldlM_follow_of_keeps keeps followed
  have step : follow (workspace.tree.put (above ++ [name]) (.file content)) above name =
      .ok (above ++ [name]) := by
    obtain ⟨entries, stillDirectory⟩ :=
      FileTree.contentAt?_eq_some_none_iff.mp (keeps.directories above enclosed)
    have written := FileTree.at?_put workspace.tree (above ++ [name]) (.file content)
    rw [FileTree.at?_append, stillDirectory, Option.bind_some, FileTree.at?_cons,
      FileTree.entries, Option.bind_eq_some_iff] at written
    obtain ⟨node, entered, _⟩ := written
    have leads : Path.isTrivial name = false := by
      rw [← Bool.not_eq_true, ← Path.component?_eq_none_iff, named]
      exact Option.some_ne_none _
    have notUp : name ≠ ['.', '.'] := by
      rintro rfl
      cases named
    simp [follow, stillDirectory, leads, notUp, Nat.not_lt.mpr short, entered]
  refine ⟨resolve_eq_ok_iff.mpr ⟨passed, ?_⟩, fun other => ?_⟩
  · change (Text.pieces '/' path.written).foldlM _ (workspace.start path) = _
    rw [split, List.foldlM_append, reached]
    change follow _ above name >>= pure = _
    rw [step]
    rfl
  · by_cases same : other = above ++ [name]
    · exact Or.inl same
    · exact Or.inr (FileTree.contentAt?_put content enclosed noDirectory same)

/-- Whether a text can be written to a path does not depend on the text. -/
theorem writeText_eq_error_iff {text : Text} {fault : AccessFault} :
    workspace.writeText path text = .error fault ↔ workspace.writePlace path = .error fault := by
  unfold writeText
  cases workspace.writePlace path <;> simp

/-- A workspace is an earlier one in which a text has been written to a path: the path leads
to a file that holds the bytes of the text, and every other place holds what it held. -/
structure Rewritten (before : Workspace) (path : Path) (text : Text) (after : Workspace) :
    Prop where
  sameDirectory : after.directory = before.directory
  place : ∃ place, after.resolve path = .ok place ∧
    after.tree.at? place = some (.file (FileTree.encode text)) ∧
      ∀ other, other = place ∨ after.tree.contentAt? other = before.tree.contentAt? other

/-- **Writing a text to a path changes the file there, and nothing else.** -/
theorem rewritten_of_writeText {text : Text} {written : Workspace}
    (outcome : workspace.writeText path text = .ok written) :
    workspace.Rewritten path text written := by
  unfold writeText at outcome
  split at outcome
  · cases outcome
  · rename_i place writable
    cases outcome
    obtain ⟨resolved, others⟩ := written_of_writePlace writable (FileTree.encode text)
    exact ⟨rfl, place, resolved, FileTree.at?_put .., others⟩

end Workspace

end StateSheet
