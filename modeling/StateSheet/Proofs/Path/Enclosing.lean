import Mathlib.Data.List.DropRight
import StateSheet.Proofs.Path.Names
import StateSheet.Proofs.Text.Joined

/-!
# Enclosing directories

The segments of a path hold all that was written (`path_segments`), so a path starts with
the directory that encloses it, as this is written in front of a name
(`asDirectory_parent?_isPrefix`). A relative path that starts with a directory goes through
it by the first of its names (`exists_above_of_asDirectory`).
-/

set_option autoImplicit false

namespace StateSheet.Path

/-! ## Segments -/

theorem trimLast_isPrefix (segments : List Text) : trimLast segments <+: segments :=
  List.rdropWhile_prefix isTrivial segments

/-- **The segments of a path hold all that was written.** -/
theorem path_segments (path : Path) : path.segments.path = path := by
  have joined := Text.intercalate_pieces '/' path.written
  have whole {written : Text} (same : written = path.written) : (⟨written⟩ : Path) = path :=
    congrArg Path.mk same
  unfold segments
  split
  · rename_i none
    exact absurd none (Text.pieces_ne_nil '/' path.written)
  · rename_i rest split
    rw [split] at joined
    split
    · rename_i nothing
      subst nothing
      exact whole joined
    · rename_i separated
      rw [List.intercalate_cons_of_ne_nil separated] at joined
      exact whole joined
  · rename_i rest split
    rw [split] at joined
    by_cases alone : rest = []
    · subst alone
      exact whole joined
    · rw [List.intercalate_cons_of_ne_nil alone] at joined
      rw [Segments.path, if_pos ⟨rfl, alone⟩]
      exact whole joined
  · rename_i first rest _ _ split
    rw [split] at joined
    exact whole joined

/-- A path starts at the top, with a dot or with a segment that leads somewhere. -/
theorem anchor_segments (path : Path) :
    path.segments.anchor = [] ∨ path.segments.anchor = ['/'] ∨ path.segments.anchor = ['.'] := by
  unfold segments
  split
  · exact Or.inl rfl
  · split
    · exact Or.inl rfl
    · exact Or.inr (Or.inl rfl)
  · exact Or.inr (Or.inr rfl)
  · exact Or.inl rfl

/-! ## Paths as directories -/

theorem written_isPrefix_asDirectory (path : Path) : path.written <+: path.asDirectory := by
  unfold asDirectory
  split
  · exact List.prefix_refl _
  · exact List.prefix_append _ _

theorem mem_asDirectory {path : Path} {c : Char} (member : c ∈ path.asDirectory) :
    c ∈ path.written ∨ c = '/' := by
  unfold asDirectory at member
  split at member
  · exact Or.inl member
  · rwa [List.mem_append, List.mem_singleton] at member

/-- What starts with a path and a separator behind it starts with that path as a directory. -/
theorem asDirectory_isPrefix {path : Path} {text : Text}
    (starts : path.written ++ ['/'] <+: text) : path.asDirectory <+: text := by
  unfold asDirectory
  split
  · exact (List.prefix_append _ _).trans starts
  · exact starts

/-! ## Enclosing directories -/

/-- **The directory that encloses a path** has the first segments of the path, and not all of
them. Only that of a dot has none. -/
theorem parent?_cases {path parent : Path} (above : path.parent? = some parent) :
    parent = ⟨[]⟩ ∨ ∃ body more, more ≠ [] ∧ path.segments.body = body ++ more ∧
      parent = { path.segments with body }.path := by
  unfold parent? at above
  dsimp only at above
  split at above
  · split at above
    · exact Or.inl (Option.some.inj above).symm
    · cases above
  · rename_i last enclosing reversed
    cases above
    have trimmed : trimLast path.segments.body = enclosing.reverse ++ [last] := by
      rw [← List.reverse_reverse (trimLast path.segments.body), reversed, List.reverse_cons]
    obtain ⟨behind, whole⟩ := trimLast_isPrefix path.segments.body
    obtain ⟨between, enclosed⟩ := trimLast_isPrefix enclosing.reverse
    refine Or.inr ⟨trimLast enclosing.reverse, between ++ [last] ++ behind, ?_, ?_, rfl⟩
    · simp
    · rw [← whole, trimmed, ← List.append_assoc, ← List.append_assoc, enclosed]

/-- A dot in front of segments has a separator behind it, as all segments have. -/
theorem Segments.written_path {segments : Segments} (given : segments.body ≠ []) :
    segments.path.written = (if segments.anchor = ['.'] then ['.', '/'] else segments.anchor) ++
      ['/'].intercalate segments.body := by
  unfold path
  by_cases dotted : segments.anchor = ['.']
  · rw [if_pos ⟨dotted, given⟩, if_pos dotted]
  · rw [if_neg fun both => dotted both.1, if_neg dotted]

/-- **A path starts with the directory that encloses it.** -/
theorem asDirectory_parent?_isPrefix {path parent : Path} (above : path.parent? = some parent)
    (given : parent.written ≠ []) : parent.asDirectory <+: path.written := by
  rcases parent?_cases above with rfl | ⟨body, more, moreGiven, whole, rfl⟩
  · exact absurd rfl given
  · have present : path.segments.body ≠ [] := by
      rw [whole]
      exact List.append_ne_nil_of_right_ne_nil body moreGiven
    have written := Segments.written_path present
    rw [path_segments, whole] at written
    rw [written]
    cases body with
    | nil =>
        rcases anchor_segments path with none | top | dot
        · rw [Segments.path, none] at given
          exact absurd rfl given
        · rw [Segments.path, top]
          exact List.prefix_append ['/'] _
        · rw [Segments.path, dot]
          exact List.prefix_append ['.', '/'] _
    | cons first rest =>
        apply asDirectory_isPrefix
        rw [Segments.written_path (List.cons_ne_nil first rest), List.append_assoc]
        apply (List.prefix_append_right_inj _).mpr
        rw [Text.intercalate_append (List.cons_ne_nil first rest) moreGiven]
        exact List.prefix_append _ _

/-- What a relative path starts with is relative. -/
theorem isAbsolute_of_prefix {shorter text : Text} (starts : shorter <+: text)
    (relative : (⟨text⟩ : Path).isAbsolute = false) : (⟨shorter⟩ : Path).isAbsolute = false := by
  rw [← Bool.not_eq_true] at relative ⊢
  intro absolute
  obtain ⟨rest, separated⟩ := isAbsolute_iff.mp absolute
  obtain ⟨more, rfl⟩ := starts
  refine relative (isAbsolute_iff.mpr ⟨rest ++ more, ?_⟩)
  change shorter ++ more = _
  rw [show shorter = '/' :: rest from separated, List.cons_append]

/-- **The directory that encloses a relative path is relative.** -/
theorem isAbsolute_parent? {path parent : Path} (relative : path.isAbsolute = false)
    (above : path.parent? = some parent) : parent.isAbsolute = false := by
  by_cases given : parent.written = []
  · rw [isAbsolute, given]
    rfl
  · have starts := asDirectory_parent?_isPrefix above given
    exact isAbsolute_of_prefix (parent.written_isPrefix_asDirectory.trans starts) relative

/-! ## Names on the way -/

/-- **A path of names that starts with a directory goes through it** by the first of its
names, and has others behind them. -/
theorem exists_above_of_asDirectory {path : Path} {names : List Text}
    (proper : ∀ name ∈ names, IsName name) (given : path.written ≠ [])
    (starts : path.asDirectory <+: (ofNames false names).written) :
    ∃ above rest, rest ≠ [] ∧ names = above ++ rest ∧
      path.asDirectory = (ofNames false above).asDirectory := by
  obtain ⟨front, ended⟩ : ∃ front, path.asDirectory = front ++ ['/'] := by
    unfold asDirectory
    split
    · rename_i finished
      exact List.getLast?_eq_some_iff.mp (finished.resolve_left given)
    · exact ⟨path.written, rfl⟩
  obtain ⟨behind, whole⟩ := starts
  rw [ended, List.append_assoc, List.singleton_append] at whole
  have present : names ≠ [] := by
    rintro rfl
    exact absurd whole (List.append_ne_nil_of_right_ne_nil front (List.cons_ne_nil _ _))
  have split := pieces_ofNames false proper present
  rw [← whole, Text.pieces_append_separator] at split
  have divided : names = Text.pieces '/' front ++ Text.pieces '/' behind := split.symm
  have aboveProper : ∀ name ∈ Text.pieces '/' front, IsName name := by
    intro name member
    exact proper name (divided ▸ List.mem_append_left _ member)
  refine ⟨_, _, Text.pieces_ne_nil '/' behind, divided, ?_⟩
  -- Behind the names above there is nothing but the separator.
  have joined := flatMap_append_intercalate (Text.pieces '/' front) (List.cons_ne_nil [] [])
  rw [Text.intercalate_append (Text.pieces_ne_nil '/' front) (List.cons_ne_nil [] []),
    List.intercalate_singleton, List.append_nil, List.append_nil, Text.intercalate_pieces] at joined
  rw [ended, asDirectory_ofNames false aboveProper, joined]
  rfl

end StateSheet.Path
