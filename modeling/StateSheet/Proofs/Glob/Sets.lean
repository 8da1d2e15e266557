import StateSheet.Glob.Basic
import StateSheet.Proofs.Traversal

/-!
# Sets of globs

A list of path filters makes a set of globs exactly when each of them does alone
(`read_eq_ok_iff`), and the set matches what one of these globs matches
(`isMatch_iff_of_read`). So neither the order of the filters nor the company of
other filters makes a difference to what a filter matches.
-/

set_option autoImplicit false

namespace StateSheet.Globs

/-! ## Depth -/

/-- Does the expression of a glob nest too deep, and is the glob compared by it? -/
def isRefused (tokens : List Glob.Token) : Bool :=
  (decide (Glob.Method.ofTokens tokens = .nameAndExpression) ||
    decide (Glob.Method.ofTokens tokens = .expression)) &&
      Glob.Token.nestsTooDeep .filter tokens

/-- Globs nest too deep exactly when one of them does. -/
theorem depthFault?_eq_none_iff {globs : List (List Glob.Token)} :
    depthFault? globs = none ↔ ∀ tokens ∈ globs, isRefused tokens = false := by
  unfold depthFault?
  dsimp only
  constructor
  · intro sound tokens member
    split at sound
    · cases sound
    · rename_i namedShallow
      rw [Option.map_eq_none_iff, List.findIdx?_eq_none_iff] at sound
      rw [List.find?_eq_none] at namedShallow
      rw [← Bool.not_eq_true]
      intro refused
      simp only [isRefused, Bool.and_eq_true, Bool.or_eq_true, decide_eq_true_eq] at refused
      obtain ⟨named | plain, deep⟩ := refused
      · exact namedShallow tokens (List.mem_filter.mpr ⟨member, decide_eq_true named⟩) deep
      · have shallow := sound tokens (List.mem_filter.mpr ⟨member, decide_eq_true plain⟩)
        rw [deep] at shallow
        cases shallow
  · intro shallow
    have never : ∀ tokens ∈ globs, (Glob.Method.ofTokens tokens = .nameAndExpression ∨
        Glob.Method.ofTokens tokens = .expression) →
          Glob.Token.nestsTooDeep .filter tokens = false := by
      intro tokens member compared
      have kept := shallow tokens member
      simpa [isRefused, compared] using kept
    split
    · rename_i tokens found
      obtain ⟨member, named⟩ := List.mem_filter.mp (List.mem_of_find?_eq_some found)
      have deep := List.find?_some found
      rw [never tokens member (Or.inl (of_decide_eq_true named))] at deep
      cases deep
    · rw [Option.map_eq_none_iff, List.findIdx?_eq_none_iff]
      intro tokens member
      obtain ⟨among, plain⟩ := List.mem_filter.mp member
      exact never tokens among (Or.inr (of_decide_eq_true plain))

/-! ## Single filters -/

/-- A text is a path filter, and this is the glob that it makes. -/
def IsRead (written : Text) (glob : Glob) : Prop := read [written] = .ok [glob]

theorem readTokens_eq_ok_iff {written : Text} {tokens : List Glob.Token} :
    readTokens written = .ok tokens ↔ Glob.read .filter written = .ok tokens := by
  unfold readTokens
  cases Glob.read .filter written <;> simp

theorem read_eq_ok_iff_tokens {patterns : List Text} {globs : Globs} :
    read patterns = .ok globs ↔ ∃ tokenLists,
      List.Forall₂ (fun written tokens => readTokens written = .ok tokens) patterns tokenLists ∧
        (∀ tokens ∈ tokenLists, isRefused tokens = false) ∧
          globs = List.zipWith Glob.ofTokens patterns tokenLists := by
  unfold read
  constructor
  · intro whole
    split at whole
    · cases whole
    · rename_i tokenLists readEach
      split at whole
      · cases whole
      · rename_i shallow
        cases whole
        exact ⟨tokenLists, mapM_eq_ok_iff.mp readEach, depthFault?_eq_none_iff.mp shallow, rfl⟩
  · rintro ⟨tokenLists, readEach, shallow, rfl⟩
    rw [mapM_eq_ok_iff.mpr readEach]
    dsimp only
    rw [depthFault?_eq_none_iff.mpr shallow]

theorem isRead_iff {written : Text} {glob : Glob} :
    IsRead written glob ↔ ∃ tokens, Glob.read .filter written = .ok tokens ∧
      isRefused tokens = false ∧ glob = Glob.ofTokens written tokens := by
  rw [IsRead, read_eq_ok_iff_tokens]
  constructor
  · rintro ⟨tokenLists, readEach, shallow, same⟩
    obtain ⟨tokens, _, tokensRead, nothing, rfl⟩ := List.forall₂_cons_left_iff.mp readEach
    cases nothing
    rw [List.zipWith_cons_cons, List.zipWith_nil_left, List.cons.injEq] at same
    exact ⟨tokens, readTokens_eq_ok_iff.mp tokensRead, shallow _ List.mem_cons_self, same.1⟩
  · rintro ⟨tokens, tokensRead, shallow, rfl⟩
    refine ⟨[tokens], .cons (readTokens_eq_ok_iff.mpr tokensRead) .nil, ?_, rfl⟩
    simpa using shallow

/-! ## Lists of filters -/

/-- **Path filters make a set of globs exactly when each of them does.** -/
theorem read_eq_ok_iff {patterns : List Text} {globs : Globs} :
    read patterns = .ok globs ↔ List.Forall₂ IsRead patterns globs := by
  rw [read_eq_ok_iff_tokens]
  constructor
  · rintro ⟨tokenLists, readEach, shallow, rfl⟩
    induction readEach with
    | nil => exact .nil
    | @cons written tokens _ _ first _ ih =>
        have single : IsRead written (Glob.ofTokens written tokens) :=
          isRead_iff.mpr ⟨tokens, readTokens_eq_ok_iff.mp first, shallow _ List.mem_cons_self, rfl⟩
        exact .cons single (ih fun other member => shallow other (List.mem_cons_of_mem _ member))
  · intro each
    induction each with
    | nil => exact ⟨[], .nil, by simp, rfl⟩
    | cons single _ ih =>
        obtain ⟨tokenLists, readEach, shallow, rfl⟩ := ih
        obtain ⟨tokens, tokensRead, shallowFirst, rfl⟩ := isRead_iff.mp single
        refine ⟨tokens :: tokenLists, .cons (readTokens_eq_ok_iff.mpr tokensRead) readEach, ?_, rfl⟩
        simpa [shallowFirst] using shallow

/-- Filters make some set of globs exactly when each of them is a path filter. -/
theorem exists_read_iff {patterns : List Text} :
    (∃ globs, read patterns = .ok globs) ↔ ∀ pattern ∈ patterns, ∃ glob, IsRead pattern glob := by
  simp only [read_eq_ok_iff, exists_forall₂_iff]

/-- That filters can be read is known from evaluating whether they are. -/
theorem valid_of_toOption {patterns : List Text}
    (evaluated : (read patterns).toOption.isSome = true) :
    ∀ pattern ∈ patterns, ∃ glob, IsRead pattern glob := by
  obtain ⟨globs, valid⟩ := Option.isSome_iff_exists.mp evaluated
  exact exists_read_iff.mp ⟨globs, eq_ok_of_toOption valid⟩

/-- A path filter makes one glob. -/
theorem IsRead.unique {pattern : Text} {first second : Glob} (firstRead : IsRead pattern first)
    (secondRead : IsRead pattern second) : first = second := by
  have same := Except.ok.inj (firstRead.symm.trans secondRead)
  exact (List.cons.inj same).1

/-- The globs of a set are those that its filters make. -/
theorem mem_iff_of_read {patterns : List Text} {globs : Globs} (whole : read patterns = .ok globs)
    {glob : Glob} : glob ∈ globs ↔ ∃ pattern ∈ patterns, IsRead pattern glob :=
  mem_iff_of_forall₂ (fun first second => first.unique second) (read_eq_ok_iff.mp whole)

/-- **A set of globs matches what one of its filters matches.** -/
theorem isMatch_iff_of_read {patterns : List Text} {globs : Globs}
    (whole : read patterns = .ok globs) (path : Path) :
    globs.isMatch path = true ↔
      ∃ pattern ∈ patterns, ∃ glob, IsRead pattern glob ∧ glob.isMatch path = true := by
  rw [isMatch, List.any_eq_true]
  constructor
  · rintro ⟨glob, member, found⟩
    obtain ⟨pattern, among, single⟩ := (mem_iff_of_read whole).mp member
    exact ⟨pattern, among, glob, single, found⟩
  · rintro ⟨pattern, among, glob, single, found⟩
    exact ⟨glob, (mem_iff_of_read whole).mpr ⟨pattern, among, single⟩, found⟩

end StateSheet.Globs
