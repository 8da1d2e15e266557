import Mathlib.Data.List.Induction
import StateSheet.Glob.Root
import StateSheet.Proofs.Path.Segments

/-!
# Paths made of names

A name that a directory can have is a segment, and a component, of its own. So a
path that is continued by names has them as its last components
(`components_joinAll`), and the components of such paths tell the names apart
(`joinAll_injective`).

A path that is continued by names is the path as it was written, with a separator
behind it, and the names joined by single separators (`written_joinAll`). The
plain spelling of a path has nothing but names and single separators
(`ofNames`). A path that is spelled so as a directory is continued so
(`joinAll_eq_ofNames`), and what continues the working directory is seen so from
there (`relativeTo?_here`).

A separator at the end of a path makes no difference to its components
(`components_asDirectory`), nor to what stands behind it in a path that continues it
(`textBehind_joinAll`).
-/

set_option autoImplicit false

namespace StateSheet.Path

/-! ## Names -/

/-- Can a directory have an entry with this name? -/
structure IsName (name : Text) : Prop where
  given : name ≠ []
  notHere : name ≠ ['.']
  notParent : name ≠ ['.', '.']
  unseparated : '/' ∉ name

instance (name : Text) : Decidable (IsName name) :=
  decidable_of_iff (name ≠ [] ∧ name ≠ ['.'] ∧ name ≠ ['.', '.'] ∧ '/' ∉ name)
    ⟨fun ⟨given, notHere, notParent, unseparated⟩ => ⟨given, notHere, notParent, unseparated⟩,
      fun name => ⟨name.given, name.notHere, name.notParent, name.unseparated⟩⟩

theorem IsName.isTrivial {name : Text} (isName : IsName name) : isTrivial name = false := by
  simp [Path.isTrivial, isName.given, isName.notHere]

theorem IsName.component? {name : Text} (isName : IsName name) :
    component? name = some (.entry name) := by
  simp [Path.component?, isName.isTrivial, isName.notParent]

theorem filterMap_component?_of_names {names : List Text} (proper : ∀ name ∈ names, IsName name) :
    names.filterMap component? = names.map .entry := by
  induction names with
  | nil => rfl
  | cons name rest ih =>
      rw [List.filterMap_cons_some (proper name List.mem_cons_self).component?, List.map_cons,
        ih fun other member => proper other (List.mem_cons_of_mem _ member)]

/-! ## Continued paths -/

/-- A path continued by names, one after another. -/
def joinAll (path : Path) (names : List Text) : Path := names.foldl join path

theorem join_ne_nil (path : Path) {name : Text} (given : name ≠ []) :
    (path.join name).written ≠ [] := by
  unfold join
  split <;> simp [given]

/-- All components of a path that is given are those of its segments, a dot at
the start and the root apart. -/
theorem components_of_pieces {path : Path} {first : Text} {rest : List Text}
    (split : Text.pieces '/' path.written = first :: rest) (given : path.written ≠ []) :
    path.components = leadingComponents first true ++ rest.filterMap component? := by
  rw [components, split]
  by_cases empty : first = []
  · have separated : rest ≠ [] := by
      rintro rfl
      have joined := Text.intercalate_pieces '/' path.written
      rw [split, empty, List.intercalate_singleton] at joined
      exact given joined.symm
    simp [leadingComponents, separated]
  · simp [leadingComponents, empty]

theorem components_join {path : Path} (given : path.written ≠ []) {name : Text}
    (isName : IsName name) : (path.join name).components = path.components ++ [.entry name] := by
  have relative : (⟨name⟩ : Path).isAbsolute = false := by
    rw [← Bool.not_eq_true, isAbsolute_iff]
    rintro ⟨rest, rfl⟩
    exact isName.unseparated List.mem_cons_self
  have joined : path.append ⟨name⟩ = path.join name := by
    rw [append, relative, if_neg Bool.false_ne_true]
  obtain ⟨front, split, pathFront⟩ := pieces_append given relative
  rw [joined, Text.pieces_of_not_mem isName.unseparated] at split
  cases front with
  | nil =>
      rcases pathFront with none | only
      · exact absurd none (Text.pieces_ne_nil '/' path.written)
      · have whole := Text.intercalate_pieces '/' path.written
        rw [only, List.nil_append, List.intercalate_singleton] at whole
        exact absurd whole.symm given
  | cons first more =>
      rw [List.cons_append] at split pathFront
      have sameRest : path.components =
          leadingComponents first true ++ more.filterMap component? := by
        rcases pathFront with whole | shortened
        · exact components_of_pieces whole given
        · rw [components_of_pieces shortened given, List.filterMap_append]
          simp [Path.component?, Path.isTrivial]
      rw [components_of_pieces split (join_ne_nil path isName.given), sameRest,
        List.filterMap_append, List.append_assoc]
      simp [isName.component?]

/-- **The names that continue a path are its last components.** -/
theorem components_joinAll {path : Path} (given : path.written ≠ []) {names : List Text}
    (proper : ∀ name ∈ names, IsName name) :
    (path.joinAll names).components = path.components ++ names.map .entry := by
  induction names generalizing path with
  | nil => simp [joinAll]
  | cons name rest ih =>
      have isName := proper name List.mem_cons_self
      have continued := ih (join_ne_nil path isName.given) fun other member =>
        proper other (List.mem_cons_of_mem _ member)
      rw [joinAll, List.foldl_cons, ← joinAll, continued, components_join given isName]
      simp

/-- Names that continue a path to the same components are the same. -/
theorem joinAll_injective {path : Path} (given : path.written ≠ []) {names others : List Text}
    (proper : ∀ name ∈ names, IsName name) (othersProper : ∀ name ∈ others, IsName name)
    (same : (path.joinAll names).components = (path.joinAll others).components) :
    names = others := by
  rw [components_joinAll given proper, components_joinAll given othersProper,
    List.append_cancel_left_eq] at same
  exact (List.map_inj_right fun _ _ sameEntry => Component.entry.inj sameEntry).mp same

/-! ## Spelling -/

/-- A path as it is written in front of a name that continues it. -/
def asDirectory (path : Path) : Text :=
  if path.written = [] ∨ path.written.getLast? = some '/' then path.written
  else path.written ++ ['/']

theorem written_join (path : Path) (name : Text) :
    (path.join name).written = path.asDirectory ++ name := by
  unfold join asDirectory
  split <;> simp

/-- Paths that are written the same as directories are continued alike. -/
theorem join_eq_of_asDirectory {first second : Path}
    (same : first.asDirectory = second.asDirectory) (name : Text) :
    first.join name = second.join name := by
  have written : (first.join name).written = (second.join name).written := by
    rw [written_join, written_join, same]
  exact congrArg Path.mk written

theorem asDirectory_join (path : Path) {name : Text} (isName : IsName name) :
    (path.join name).asDirectory = path.asDirectory ++ name ++ ['/'] := by
  have unseparated : (path.join name).written.getLast? ≠ some '/' := by
    obtain ⟨front, last, rfl⟩ := List.eq_nil_or_concat name |>.resolve_left isName.given
    rw [List.concat_eq_append, written_join, ← List.append_assoc, List.getLast?_concat]
    rintro ⟨⟩
    exact isName.unseparated (by simp)
  rw [asDirectory, if_neg (not_or.mpr ⟨join_ne_nil path isName.given, unseparated⟩),
    written_join]

/-- **A continued path is written as it was, with the names behind it.** -/
theorem written_joinAll (path : Path) {names : List Text} (proper : ∀ name ∈ names, IsName name)
    (present : names ≠ []) :
    (path.joinAll names).written = path.asDirectory ++ ['/'].intercalate names := by
  induction names generalizing path with
  | nil => exact absurd rfl present
  | cons name rest ih =>
      cases rest with
      | nil =>
          rw [List.intercalate_singleton]
          exact written_join path name
      | cons second others =>
          have continued := ih (path.join name)
            (fun other member => proper other (List.mem_cons_of_mem _ member))
            (List.cons_ne_nil _ _)
          rw [joinAll, List.foldl_cons, ← joinAll, continued,
            asDirectory_join path (proper name List.mem_cons_self), List.intercalate_cons_cons]
          simp

/-- **The segments of a continued path** are those of the path, of which an empty one at the
end gives way, and the names behind them. -/
theorem pieces_joinAll {path : Path} (given : path.written ≠ []) {names : List Text}
    (proper : ∀ name ∈ names, IsName name) (present : names ≠ []) :
    ∃ front, Text.pieces '/' (path.joinAll names).written = front ++ names ∧
      (Text.pieces '/' path.written = front ∨ Text.pieces '/' path.written = front ++ [[]]) := by
  have split := Text.pieces_intercalate present fun name member => (proper name member).unseparated
  have relative : (⟨['/'].intercalate names⟩ : Path).isAbsolute = false := by
    obtain ⟨name, rest, rfl⟩ := List.exists_cons_of_ne_nil present
    exact isAbsolute_of_pieces split (proper name List.mem_cons_self).given
  have whole : (path.append ⟨['/'].intercalate names⟩).written = (path.joinAll names).written := by
    rw [append, relative, if_neg Bool.false_ne_true, written_join,
      written_joinAll path proper present]
  obtain ⟨front, segments, pathFront⟩ := pieces_append given relative
  rw [whole, split] at segments
  exact ⟨front, segments, pathFront⟩

/-- Names in front of others, each with a separator behind it, are spelled
together with them. -/
theorem flatMap_append_intercalate (above : List Text) {names : List Text}
    (present : names ≠ []) :
    above.flatMap (· ++ ['/']) ++ ['/'].intercalate names = ['/'].intercalate (above ++ names) := by
  induction above with
  | nil => rfl
  | cons name rest ih =>
      obtain ⟨next, more, together⟩ := List.exists_cons_of_ne_nil
        (List.append_ne_nil_of_right_ne_nil rest present)
      rw [List.flatMap_cons, List.append_assoc, ih, List.cons_append, together,
        List.intercalate_cons_cons]

/-- The path that names lead along from the top, or from the working directory,
spelled with single separators. -/
def ofNames (absolute : Bool) (names : List Text) : Path :=
  ⟨(if absolute then ['/'] else []) ++ ['/'].intercalate names⟩

theorem pieces_ofNames (absolute : Bool) {names : List Text}
    (proper : ∀ name ∈ names, IsName name) (present : names ≠ []) :
    Text.pieces '/' (ofNames absolute names).written =
      (if absolute then [[]] else []) ++ names := by
  have split := Text.pieces_intercalate present fun name member =>
    (proper name member).unseparated
  cases absolute with
  | true => simp [ofNames, Text.pieces, split]
  | false => simpa [ofNames] using split

theorem components_ofNames (absolute : Bool) {names : List Text}
    (proper : ∀ name ∈ names, IsName name) :
    (ofNames absolute names).components =
      (if absolute then [.root] else []) ++ names.map .entry := by
  cases names with
  | nil => cases absolute <;> rfl
  | cons first rest =>
      have split := pieces_ofNames absolute proper (List.cons_ne_nil first rest)
      have isName := proper first List.mem_cons_self
      cases absolute with
      | true =>
          rw [components_of_absolute split (List.cons_ne_nil _ _), List.append_eq,
            List.nil_append, filterMap_component?_of_names proper]
          rfl
      | false =>
          rw [components_of_relative split isName.given, if_neg isName.notHere,
            filterMap_component?_of_names proper]
          rfl

/-- A path of names ends in none that leads up. -/
theorem endsInParent_ofNames (absolute : Bool) {names : List Text}
    (proper : ∀ name ∈ names, IsName name) (present : names ≠ []) :
    (ofNames absolute names).endsInParent = false := by
  obtain ⟨front, last, rfl⟩ := (List.eq_nil_or_concat names).resolve_left present
  rw [List.concat_eq_append] at proper present ⊢
  have isName := proper last (List.mem_append_right _ List.mem_cons_self)
  rw [endsInParent, pieces_ofNames absolute proper present, ← List.append_assoc,
    List.getLast?_concat]
  simp [isName.notParent]

/-! ## Plain spelling of walked paths -/

/-- As a directory, a path of names has a separator behind each of them. -/
theorem asDirectory_ofNames (absolute : Bool) {names : List Text}
    (proper : ∀ name ∈ names, IsName name) :
    (ofNames absolute names).asDirectory =
      (if absolute then ['/'] else []) ++ names.flatMap (· ++ ['/']) := by
  induction names using List.reverseRecOn with
  | nil => cases absolute <;> rfl
  | append_singleton front name ih =>
      have frontSpelled := ih fun other member => proper other (List.mem_append_left _ member)
      have joined : ofNames absolute (front ++ [name]) = (ofNames absolute front).join name := by
        have written := written_join (ofNames absolute front) name
        have spelled := flatMap_append_intercalate front (List.cons_ne_nil name [])
        rw [List.intercalate_singleton] at spelled
        rw [frontSpelled, List.append_assoc, spelled] at written
        exact (congrArg Path.mk written).symm
      have isName := proper name (List.mem_append_right _ List.mem_cons_self)
      rw [joined, asDirectory_join _ isName, frontSpelled]
      simp

/-- A path that is written like one of names is continued to a path of names. -/
theorem joinAll_eq_ofNames {absolute : Bool} {above : List Text}
    (aboveProper : ∀ name ∈ above, IsName name) {path : Path}
    (spelled : path.asDirectory = (ofNames absolute above).asDirectory) {names : List Text}
    (proper : ∀ name ∈ names, IsName name) (present : names ≠ []) :
    path.joinAll names = ofNames absolute (above ++ names) := by
  have written := written_joinAll path proper present
  rw [spelled, asDirectory_ofNames absolute aboveProper, List.append_assoc,
    flatMap_append_intercalate above present] at written
  exact congrArg Path.mk written

/-- A path that is written like one of names, and without a separator at its end, is
that path. -/
theorem eq_ofNames_of_asDirectory {absolute : Bool} {above : List Text}
    (proper : ∀ name ∈ above, IsName name) {path : Path}
    (spelled : path.asDirectory = (ofNames absolute above).asDirectory)
    (given : path.written ≠ []) (unseparated : path.written.getLast? ≠ some '/') :
    above ≠ [] ∧ path = ofNames absolute above := by
  rw [asDirectory_ofNames absolute proper, asDirectory,
    if_neg (not_or.mpr ⟨given, unseparated⟩)] at spelled
  rcases List.eq_nil_or_concat above with rfl | ⟨front, last, rfl⟩
  · cases absolute with
    | true =>
        have empty : path.written = [] := by simpa using spelled
        exact absurd empty given
    | false => simp at spelled
  · rw [List.concat_eq_append] at spelled ⊢
    refine ⟨List.append_ne_nil_of_right_ne_nil _ (List.cons_ne_nil _ _), ?_⟩
    have whole : path.written =
        (if absolute then ['/'] else []) ++ (front.flatMap (· ++ ['/']) ++ last) := by
      simpa [← List.append_assoc] using spelled
    have joined := flatMap_append_intercalate front (List.cons_ne_nil last [])
    rw [List.intercalate_singleton] at joined
    rw [joined] at whole
    exact congrArg Path.mk whole

theorem dropWhile_isTrivial_of_names {names : List Text} (proper : ∀ name ∈ names, IsName name) :
    names.dropWhile isTrivial = names := by
  cases names with
  | nil => rfl
  | cons name rest => simp [(proper name List.mem_cons_self).isTrivial]

/-- **What the working directory is continued to is seen from there by its names.** -/
theorem relativeTo?_here {names : List Text} (proper : ∀ name ∈ names, IsName name)
    (present : names ≠ []) :
    Glob.here.relativeTo? (Glob.here.joinAll names) = some (ofNames false names) := by
  have written : (Glob.here.joinAll names).written = ['.'] ++ '/' :: ['/'].intercalate names :=
    written_joinAll Glob.here proper present
  have split : Text.pieces '/' (Glob.here.joinAll names).written = ['.'] :: names := by
    rw [written, Text.pieces_append_separator, Text.pieces_intercalate present
      fun name member => (proper name member).unseparated]
    rfl
  have kept : trimLast (names.dropWhile isTrivial) = names := by
    rw [dropWhile_isTrivial_of_names proper, trimLast, dropWhile_isTrivial_of_names,
      List.reverse_reverse]
    exact fun name member => proper name (List.mem_reverse.mp member)
  rw [relativeTo?_of_dot rfl split, trimmed, split, List.dropWhile_cons_of_pos rfl, kept]
  rfl

/-! ## Paths as directories -/

/-- A separator at the end makes no difference to where a path leads. -/
theorem components_asDirectory (path : Path) :
    (⟨path.asDirectory⟩ : Path).components = path.components := by
  unfold asDirectory
  split
  · rfl
  · rename_i unfinished
    have given : path.written ≠ [] := fun empty => unfinished (Or.inl empty)
    cases split : Text.pieces '/' path.written with
    | nil => exact absurd split (Text.pieces_ne_nil '/' path.written)
    | cons first rest =>
        have splitBehind : Text.pieces '/' (path.written ++ ['/']) = first :: (rest ++ [[]]) := by
          rw [Text.pieces_append_separator, split]
          rfl
        have givenBehind : path.written ++ ['/'] ≠ [] :=
          List.append_ne_nil_of_right_ne_nil _ (List.cons_ne_nil _ _)
        rw [components_of_pieces splitBehind givenBehind, components_of_pieces split given,
          List.filterMap_append]
        simp [component?, isTrivial]

theorem components_eq_of_asDirectory {first second : Path}
    (same : first.asDirectory = second.asDirectory) : first.components = second.components := by
  rw [← components_asDirectory first, same, components_asDirectory]

/-- A path without a dot in front is kept. -/
theorem withoutDot_eq_self {path : Path} (noDot : .current ∉ path.components) :
    path.withoutDot = path := by
  have undotted : Text.dropPrefix? ['.', '/'] path.written = none := by
    rw [Option.eq_none_iff_forall_ne_some]
    intro rest dotted
    have split : Text.pieces '/' path.written = ['.'] :: Text.pieces '/' rest := by
      rw [Text.dropPrefix?_eq_some_iff.mp dotted]
      exact Text.pieces_append_separator '/' ['.'] rest
    rw [components_of_relative split (List.cons_ne_nil _ _)] at noDot
    simp at noDot
  rw [withoutDot, undotted]
  rfl

/-- What stands behind a path in its continuation are the names that continue it. -/
theorem textBehind_joinAll (path : Path) {names : List Text}
    (proper : ∀ name ∈ names, IsName name) (present : names ≠ []) :
    path.textBehind (path.joinAll names) = ⟨['/'].intercalate names⟩ := by
  have unseparated : Text.dropPrefix? ['/'] (['/'].intercalate names) = none := by
    rw [Option.eq_none_iff_forall_ne_some]
    intro rest leading
    have split := Text.pieces_intercalate present fun name member =>
      (proper name member).unseparated
    rw [Text.dropPrefix?_eq_some_iff.mp leading] at split
    have empty : [] ∈ names := by
      rw [← split]
      exact List.mem_cons_self
    exact (proper [] empty).given rfl
  unfold textBehind
  rw [written_joinAll path proper present, asDirectory]
  by_cases separated : path.written = [] ∨ path.written.getLast? = some '/'
  · rw [if_pos separated, Text.dropPrefix?_append]
    dsimp only
    rw [unseparated]
    rfl
  · rw [if_neg separated, List.append_assoc, Text.dropPrefix?_append]
    dsimp only
    rw [Text.dropPrefix?_append]
    rfl

end StateSheet.Path
