import StateSheet.Path.Basic

/-!
# Segments of paths

Splitting a text undoes joining (`Text.pieces_intercalate`), and a path that
continues another has the segments of both, one behind another
(`pieces_append`).

What remains of a continued path as seen from the path that it continues is the
continuation without the segments at its ends that lead nowhere
(`relativeTo?_append`). In the middle of it nothing is tidied up.
-/

set_option autoImplicit false

namespace StateSheet

/-! ## Splitting and joining -/

namespace Text

theorem pieces_append_separator (separator : Char) (first second : Text) :
    pieces separator (first ++ separator :: second) =
      pieces separator first ++ pieces separator second := by
  induction first with
  | nil => simp [pieces]
  | cons c rest ih =>
      by_cases here : c = separator
      · simp only [List.cons_append, pieces, here, if_true, ih]
      · cases shape : pieces separator rest with
        | nil => exact absurd shape (pieces_ne_nil separator rest)
        | cons piece more =>
            simp only [List.cons_append, pieces, here, if_false, ih, shape]

theorem pieces_of_not_mem {separator : Char} {text : Text} (free : separator ∉ text) :
    pieces separator text = [text] := by
  induction text with
  | nil => rfl
  | cons c rest ih =>
      simp only [List.mem_cons, not_or] at free
      rw [pieces, if_neg (Ne.symm free.1), ih free.2]

/-- Texts without the separator are the pieces of what they are joined to. -/
theorem pieces_intercalate {separator : Char} {texts : List Text} (present : texts ≠ [])
    (free : ∀ text ∈ texts, separator ∉ text) :
    pieces separator ([separator].intercalate texts) = texts := by
  induction texts with
  | nil => exact absurd rfl present
  | cons first rest ih =>
      have firstFree := pieces_of_not_mem (free first List.mem_cons_self)
      cases rest with
      | nil => rw [List.intercalate_singleton, firstFree]
      | cons second others =>
          have restFree : ∀ text ∈ second :: others, separator ∉ text :=
            fun text member => free text (List.mem_cons_of_mem _ member)
          rw [List.intercalate_cons_cons, List.append_assoc, List.singleton_append,
            pieces_append_separator, firstFree, ih (List.cons_ne_nil _ _) restFree]
          rfl

end Text

namespace Path

/-! ## Continued paths -/

theorem isAbsolute_iff {path : Path} :
    path.isAbsolute = true ↔ ∃ rest, path.written = '/' :: rest := by
  rw [isAbsolute, beq_iff_eq, List.head?_eq_some_iff]

/-- The segments of a relative path stand behind those of the path that it
continues, of which an empty one at the end gives way. -/
theorem pieces_append {base path : Path} (given : base.written ≠ [])
    (relative : path.isAbsolute = false) :
    ∃ front, Text.pieces '/' (base.append path).written =
        front ++ Text.pieces '/' path.written ∧
      (Text.pieces '/' base.written = front ∨ Text.pieces '/' base.written = front ++ [[]]) := by
  rw [append, relative, if_neg Bool.false_ne_true, join]
  by_cases separated : base.written.getLast? = some '/'
  · obtain ⟨shorter, written⟩ := List.getLast?_eq_some_iff.mp separated
    refine ⟨Text.pieces '/' shorter, ?_, Or.inr ?_⟩
    · rw [if_pos (Or.inr separated), written, List.append_assoc, List.singleton_append,
        Text.pieces_append_separator]
    · rw [written, Text.pieces_append_separator]
      rfl
  · refine ⟨Text.pieces '/' base.written, ?_, Or.inl rfl⟩
    rw [if_neg (not_or.mpr ⟨given, separated⟩), Text.pieces_append_separator]

theorem component?_eq_none_iff {segment : Text} :
    component? segment = none ↔ isTrivial segment = true := by
  by_cases parent : segment = ['.', '.']
  · subst parent
    decide
  · cases trivial : isTrivial segment with
    | true => simp [component?, trivial]
    | false => simp [component?, trivial, parent]

/-- Dropping the components of some segments leaves the segments behind them, and
at most some that lead nowhere in front of those. -/
theorem dropComponents?_append (front back : List Text) :
    ∃ trivial, dropComponents? (front.filterMap component?) (front ++ back) =
        some (trivial ++ back) ∧
      ∀ segment ∈ trivial, isTrivial segment = true := by
  induction front with
  | nil => exact ⟨[], by simp [dropComponents?], by simp⟩
  | cons segment rest ih =>
      obtain ⟨trivial, dropped, leadsNowhere⟩ := ih
      cases kind : component? segment with
      | some found =>
          rw [List.filterMap_cons_some kind, List.cons_append, dropComponents?, kind]
          exact ⟨trivial, by simpa using dropped, leadsNowhere⟩
      | none =>
          rw [List.filterMap_cons_none kind]
          cases expected : rest.filterMap component? with
          | nil =>
              have allTrivial : ∀ other ∈ segment :: rest, isTrivial other = true := by
                intro other member
                rcases List.mem_cons.mp member with rfl | later
                · exact component?_eq_none_iff.mp kind
                · exact component?_eq_none_iff.mp
                    (List.filterMap_eq_nil_iff.mp expected other later)
              exact ⟨segment :: rest, by simp [dropComponents?], allTrivial⟩
          | cons found more =>
              rw [expected] at dropped
              rw [List.cons_append, dropComponents?, kind]
              exact ⟨trivial, dropped, leadsNowhere⟩

/-! ## Trimmed paths -/

/-- A path without the segments at either end that lead nowhere. -/
def trimmed (path : Path) : Path :=
  ⟨['/'].intercalate (trimLast ((Text.pieces '/' path.written).dropWhile isTrivial))⟩

theorem components_of_absolute {path : Path} {rest : List Text}
    (split : Text.pieces '/' path.written = [] :: rest) (separated : rest ≠ []) :
    path.components = .root :: rest.filterMap component? := by
  simp [components, split, leadingComponents, separated]

theorem segments_of_absolute {path : Path} {rest : List Text}
    (split : Text.pieces '/' path.written = [] :: rest) (separated : rest ≠ []) :
    path.segments = ⟨['/'], rest⟩ := by
  simp [segments, split, separated]

theorem pieces_of_isAbsolute {path : Path} (absolute : path.isAbsolute = true) :
    ∃ rest, Text.pieces '/' path.written = [] :: rest ∧ rest ≠ [] := by
  obtain ⟨rest, written⟩ := isAbsolute_iff.mp absolute
  refine ⟨Text.pieces '/' rest, ?_, Text.pieces_ne_nil '/' rest⟩
  rw [written, Text.pieces, if_pos rfl]

theorem pieces_of_relative {path : Path} (given : path.written ≠ [])
    (relative : path.isAbsolute = false) :
    ∃ first rest, Text.pieces '/' path.written = first :: rest ∧ first ≠ [] := by
  obtain ⟨c, more, written⟩ := List.exists_cons_of_ne_nil given
  have visible : c ≠ '/' := by
    rintro rfl
    rw [isAbsolute, written] at relative
    cases relative
  rw [written, Text.pieces, if_neg visible]
  cases Text.pieces '/' more with
  | nil => exact ⟨[c], [], rfl, List.cons_ne_nil _ _⟩
  | cons piece others => exact ⟨c :: piece, others, rfl, List.cons_ne_nil _ _⟩

/-- A path whose first segment is given is relative. -/
theorem isAbsolute_of_pieces {path : Path} {first : Text} {rest : List Text}
    (split : Text.pieces '/' path.written = first :: rest) (given : first ≠ []) :
    path.isAbsolute = false := by
  rw [← Bool.not_eq_true]
  intro absolute
  obtain ⟨others, separated, _⟩ := pieces_of_isAbsolute absolute
  rw [split, List.cons.injEq] at separated
  exact given separated.1

/-- A dot at the start of a relative path is a component, and all others are those
of the segments. -/
theorem components_of_relative {path : Path} {first : Text} {rest : List Text}
    (split : Text.pieces '/' path.written = first :: rest) (given : first ≠ []) :
    path.components =
      (if first = ['.'] then [.current] else []) ++ (first :: rest).filterMap component? := by
  rw [components, split]
  by_cases here : first = ['.']
  · subst here
    rfl
  · cases kind : component? first <;> simp [leadingComponents, given, here, kind]

/-- The last component of a path is that of its last segment, if that leads
anywhere. -/
theorem getLast?_components {path : Path} {front : List Text} {last : Text}
    {component : Component} (split : Text.pieces '/' path.written = front ++ [last])
    (leads : component? last = some component) :
    path.components.getLast? = some component := by
  have given : last ≠ [] := by
    rintro rfl
    cases leads
  cases front with
  | nil =>
      rw [components_of_relative split given]
      simp [leads]
  | cons first more =>
      simp [components, split, leads]

/-- **A continued path is seen as its continuation**, without the segments at the
ends of that which lead nowhere. -/
theorem relativeTo?_append {base path : Path} (absolute : base.isAbsolute = true)
    (relative : path.isAbsolute = false) :
    base.relativeTo? (base.append path) = some path.trimmed := by
  have given : base.written ≠ [] := by
    obtain ⟨rest, written⟩ := isAbsolute_iff.mp absolute
    simp [written]
  obtain ⟨rest, baseSplit, separated⟩ := pieces_of_isAbsolute absolute
  obtain ⟨front, split, baseFront⟩ := pieces_append given relative
  -- The root in front is a segment of its own, so the rest of the front is matched below it.
  obtain ⟨more, rfl, sameComponents⟩ : ∃ more, front = [] :: more ∧
      rest.filterMap component? = more.filterMap component? := by
    rcases baseFront with whole | shortened
    · exact ⟨rest, by rw [← whole, baseSplit], rfl⟩
    · cases front with
      | nil =>
          rw [baseSplit, List.nil_append, List.cons.injEq] at shortened
          exact absurd shortened.2 separated
      | cons first more =>
          rw [baseSplit, List.cons_append, List.cons.injEq] at shortened
          refine ⟨more, by rw [← shortened.1], ?_⟩
          rw [shortened.2, List.filterMap_append]
          simp [component?, isTrivial]
  have behindRoot : more ++ Text.pieces '/' path.written ≠ [] := by
    simp [Text.pieces_ne_nil]
  obtain ⟨trivial, dropped, leadsNowhere⟩ :=
    dropComponents?_append more (Text.pieces '/' path.written)
  rw [relativeTo?, components_of_absolute baseSplit separated, sameComponents,
    segments_of_absolute (by simpa using split) behindRoot]
  simp only [if_true, dropped, Option.map_some, List.dropWhile_append_of_pos leadsNowhere,
    trimmed]

/-- A path that neither starts nor ends in a segment that leads nowhere has nothing to
trim. -/
theorem trimmed_eq_self {path : Path} {first last : Text} {rest front : List Text}
    (splitFirst : Text.pieces '/' path.written = first :: rest) (starts : isTrivial first = false)
    (splitLast : Text.pieces '/' path.written = front ++ [last]) (ends : isTrivial last = false) :
    path.trimmed = path := by
  have keptFirst : (Text.pieces '/' path.written).dropWhile isTrivial =
      Text.pieces '/' path.written := by
    rw [splitFirst, List.dropWhile_cons, starts, if_neg Bool.false_ne_true]
  have keptLast : trimLast (Text.pieces '/' path.written) = Text.pieces '/' path.written := by
    rw [trimLast, splitLast, List.reverse_append, List.reverse_singleton, List.singleton_append,
      List.dropWhile_cons, ends, if_neg Bool.false_ne_true]
    simp
  rw [trimmed, keptFirst, keptLast, Text.intercalate_pieces]

/-- From a dot, what starts with a dot is seen without the segments at its ends that lead
nowhere. -/
theorem relativeTo?_of_dot {base path : Path} (here : base.components = [.current])
    {rest : List Text} (split : Text.pieces '/' path.written = ['.'] :: rest) :
    base.relativeTo? path = some path.trimmed := by
  have parts : path.segments = ⟨['.'], rest⟩ := by
    simp [segments, split]
  have leadsNowhere : isTrivial ['.'] = true := rfl
  simp [relativeTo?, here, parts, dropComponents?, trimmed, split, leadsNowhere]

end Path

end StateSheet
