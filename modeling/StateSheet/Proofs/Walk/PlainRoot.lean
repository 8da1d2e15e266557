import StateSheet.Proofs.Walk.Alike

/-!
# Walks from plain roots

A plain root is the working directory, or a path of names with single separators, from
the top or from the working directory. A separator may stand at its end.

A walk from a plain root sees files by the names that lead to them
(`PlainRoot.view`). Plain roots that lead the same way, and that resolve alike, are
walked alike whether a separator stands at their end or not (`PlainRoot.walk_eq`).
-/

set_option autoImplicit false

namespace StateSheet

variable {workspace : Workspace}

/-- Does a walk from this root see files by the names that lead to them, from the top
or from the working directory? It does from the working directory itself, and from a
path of names with single separators. -/
inductive PlainRoot (absolute : Bool) : Path → Prop where
  | here (relative : absolute = false) : PlainRoot absolute Glob.here
  | names {above : List Text} (proper : ∀ name ∈ above, Path.IsName name) {root : Path}
      (spelled : root.asDirectory = (Path.ofNames absolute above).asDirectory) :
      PlainRoot absolute root

/-- The working directory is no file. -/
theorem not_file_of_resolve_here {place : Place}
    (resolved : workspace.resolve Glob.here = .ok place) (content : ByteArray) :
    workspace.tree.at? place ≠ some (.file content) := by
  intro isFile
  obtain ⟨front, name, _, split, named, _⟩ := Workspace.exists_name_of_resolve resolved isFile
  have dotted : [] ++ [['.']] = front ++ [name] := split
  obtain ⟨_, same⟩ := List.append_inj' dotted rfl
  cases same
  cases named

/-- A root that is written like a path of names is continued to such a path by the
names that lead to a file, also by none if it leads to a file itself. -/
theorem joinAll_plainly {absolute : Bool} {above names : List Text}
    (aboveProper : ∀ name ∈ above, Path.IsName name) (proper : ∀ name ∈ names, Path.IsName name)
    {root : Path} (spelled : root.asDirectory = (Path.ofNames absolute above).asDirectory)
    {base : Place} (resolved : workspace.resolve root = .ok base) {content : ByteArray}
    (onlyRoot : names = [] → workspace.tree.at? base = some (.file content)) :
    above ++ names ≠ [] ∧ root.joinAll names = Path.ofNames absolute (above ++ names) := by
  cases names with
  | nil =>
      have given := Workspace.written_ne_nil_of_check (Workspace.resolve_eq_ok_iff.mp resolved).1
      have unseparated := Workspace.unseparated_of_resolve resolved (onlyRoot rfl)
      rw [List.append_nil]
      exact Path.eq_ofNames_of_asDirectory aboveProper spelled given unseparated
  | cons name rest =>
      have present := List.cons_ne_nil name rest
      exact ⟨List.append_ne_nil_of_right_ne_nil _ present,
        Path.joinAll_eq_ofNames aboveProper spelled proper present⟩

/-- **A walk from a plain root sees files by the names that lead to them**, as walked
or as seen from the root. -/
theorem PlainRoot.view {absolute : Bool} {root : Path} (plain : PlainRoot absolute root)
    (wellNamed : workspace.tree.WellNamed) {respectsRepository : Bool} {path : Path}
    (walked : path ∈ walk workspace respectsRepository root) :
    ∃ names, (∀ name ∈ names, Path.IsName name) ∧ names ≠ [] ∧
      path.components.foldl Path.Component.lead workspace.directory =
        (if absolute then [] else workspace.directory) ++ names ∧
      (root.relativeTo? path = some (Path.ofNames absolute names) ∨
        path = Path.ofNames absolute names) := by
  obtain ⟨base, names, content, resolved, isFile, rfl, onlyRoot⟩ := mem_walk walked
  have proper := wellNamed.names_of_walk isFile
  cases plain with
  | here relative =>
      subst relative
      have present : names ≠ [] := fun none =>
        not_file_of_resolve_here resolved content (onlyRoot none)
      refine ⟨names, proper, present, ?_, Or.inl (Path.relativeTo?_here proper present)⟩
      rw [Path.components_joinAll (by decide) proper, List.foldl_append,
        Path.Component.foldl_lead_entries]
      rfl
  | @names above aboveProper _ spelled =>
      obtain ⟨present, plainly⟩ := joinAll_plainly aboveProper proper spelled resolved onlyRoot
      have allProper : ∀ name ∈ above ++ names, Path.IsName name := by
        intro name member
        exact (List.mem_append.mp member).elim (aboveProper name) (proper name)
      refine ⟨above ++ names, allProper, present, ?_, Or.inr plainly⟩
      rw [plainly, Path.place_ofNames workspace.directory absolute allProper]

/-! ## Spelling of plain roots -/

/-- What is written like a path of names as a directory has no dot in front. -/
theorem Path.withoutDot_of_names {absolute : Bool} {above : List Text}
    (proper : ∀ name ∈ above, IsName name) {path : Path}
    (spelled : path.asDirectory = (ofNames absolute above).asDirectory) :
    path.withoutDot = path := by
  refine withoutDot_eq_self ?_
  rw [components_eq_of_asDirectory spelled, components_ofNames absolute proper]
  cases absolute <;> simp

/-- Two spellings of one path of names lose the same from the paths below. -/
theorem Path.behindAlike_of_names {absolute : Bool} {above : List Text}
    (aboveProper : ∀ name ∈ above, IsName name) {first second : Path}
    (firstSpelled : first.asDirectory = (ofNames absolute above).asDirectory)
    (secondSpelled : second.asDirectory = (ofNames absolute above).asDirectory) :
    first.BehindAlike second where
  firstPlain := withoutDot_of_names aboveProper firstSpelled
  secondPlain := withoutDot_of_names aboveProper secondSpelled
  belowPlain := by
    rintro _ ⟨names, present, proper, rfl⟩
    rw [joinAll_eq_ofNames aboveProper firstSpelled proper present]
    exact withoutDot_of_names (List.forall_mem_append.mpr ⟨aboveProper, proper⟩) rfl
  behind := by
    rintro _ ⟨names, present, proper, rfl⟩
    have samePath : first.joinAll names = second.joinAll names := by
      rw [joinAll_eq_ofNames aboveProper firstSpelled proper present,
        joinAll_eq_ofNames aboveProper secondSpelled proper present]
    rw [textBehind_joinAll first proper present, samePath,
      textBehind_joinAll second proper present]

/-- Paths of names have the same components only from the same start along the same
names. -/
theorem Path.ofNames_injective {absolute other : Bool} {names others : List Text}
    (proper : ∀ name ∈ names, IsName name) (othersProper : ∀ name ∈ others, IsName name)
    (same : (ofNames absolute names).components = (ofNames other others).components) :
    absolute = other ∧ names = others := by
  have entryInjective : Function.Injective Component.entry :=
    fun _ _ sameEntry => Component.entry.inj sameEntry
  rw [components_ofNames absolute proper, components_ofNames other othersProper] at same
  cases absolute with
  | true =>
      cases other with
      | true => exact ⟨rfl, entryInjective.list_map (List.cons.inj same).2⟩
      | false => cases others <;> simp at same
  | false =>
      cases other with
      | true => cases names <;> simp at same
      | false => exact ⟨rfl, entryInjective.list_map same⟩

/-- The working directory is no path of names. -/
theorem components_here_ne {absolute : Bool} {names : List Text}
    (proper : ∀ name ∈ names, Path.IsName name) :
    Glob.here.components ≠ (Path.ofNames absolute names).components := by
  intro same
  have dot : Path.Component.current ∈ (Path.ofNames absolute names).components := by
    rw [← same]
    exact List.mem_cons_self
  rw [Path.components_ofNames absolute proper] at dot
  cases absolute <;> simp at dot

/-- **Plain roots that lead the same way are walked alike**, if both resolve to the same
place or both fail. -/
theorem PlainRoot.walk_eq {absolute other : Bool} {first second : Path}
    (firstPlain : PlainRoot absolute first) (secondPlain : PlainRoot other second)
    (wellNamed : workspace.tree.WellNamed) (respectsRepository : Bool)
    (sameComponents : first.components = second.components)
    (sameResolved : workspace.resolve first = workspace.resolve second) :
    walk workspace respectsRepository first = walk workspace respectsRepository second := by
  cases firstPlain with
  | here _ =>
      cases secondPlain with
      | here _ => rfl
      | names proper spelled =>
          rw [Path.components_eq_of_asDirectory spelled] at sameComponents
          exact absurd sameComponents (components_here_ne proper)
  | names aboveProper firstSpelled =>
      have firstComponents := Path.components_eq_of_asDirectory firstSpelled
      cases secondPlain with
      | here _ =>
          exact absurd (sameComponents.symm.trans firstComponents) (components_here_ne aboveProper)
      | names proper secondSpelled =>
          have secondComponents := Path.components_eq_of_asDirectory secondSpelled
          obtain ⟨rfl, rfl⟩ := Path.ofNames_injective aboveProper proper
            (firstComponents.symm.trans (sameComponents.trans secondComponents))
          exact walk_congr wellNamed respectsRepository sameComponents
            (firstSpelled.trans secondSpelled.symm) sameResolved
            (Path.behindAlike_of_names aboveProper firstSpelled secondSpelled)

end StateSheet
