import StateSheet.Glob.Root
import StateSheet.Proofs.Glob.OwnText
import StateSheet.Proofs.Glob.Sets
import StateSheet.Proofs.Text.ByteOrder

/-!
# What globs start with

Characters at the start of a glob that have no meaning of their own stand for themselves, and
every path that the glob matches starts with them (`isPrefix_of_isMatch`). A glob that has
nothing else matches no path but its own text (`written_of_isMatch`).

The characters are read into literals (`readTokens_ordinary`), and from then on everything
that the tokens stand for starts with these bytes (`Starts`). Each step of the reader keeps
that (`starts_readTokens`). Two stars that stand for directories replace the separator in front
of them, but what they stand for starts with a separator too (`Starts.replaceLast`). While
groups are open, it is the tokens outside all of them that count (`outermost`).
-/

set_option autoImplicit false

namespace StateSheet.Glob

/-! ## Shapes of tokens one behind another -/

theorem matches_bytes_iff {bytes input : List UInt8} :
    (Shape.sequence (bytes.map Token.byte)).Matches input ↔ input = bytes := by
  refine ⟨fun shaped => ?_, fun same => same ▸ matches_bytes bytes⟩
  induction bytes generalizing input with
  | nil => exact shaped
  | cons b rest ih =>
      obtain ⟨_, back, rfl, ⟨found, rfl, inClass⟩, restShaped⟩ := shaped
      have same : found = b := by
        simp only [ByteClass.contains, ByteClass.single, List.any_cons, List.any_nil,
          Bool.or_false, Bool.false_bne, Bool.and_eq_true, decide_eq_true_eq] at inClass
        exact UInt8.le_antisymm inClass.2 inClass.1
      rw [ih restShaped, same, List.singleton_append]

/-- What has the shape of tokens with one more behind them divides between these. -/
theorem exists_of_matches_concat {dialect : Dialect} {tokens : List Token} {token : Token}
    {input : List UInt8}
    (shaped : (Token.sequenceShape dialect (tokens ++ [token])).Matches input) :
    ∃ front back, input = front ++ back ∧ (Token.sequenceShape dialect tokens).Matches front ∧
      (token.shape dialect).Matches back := by
  induction tokens generalizing input with
  | nil =>
      obtain ⟨front, _, rfl, tokenShaped, rfl⟩ := shaped
      exact ⟨[], front, by rw [List.append_nil, List.nil_append], rfl, tokenShaped⟩
  | cons first rest ih =>
      obtain ⟨head, tail, rfl, firstShaped, restShaped⟩ := shaped
      obtain ⟨front, back, rfl, frontShaped, tokenShaped⟩ := ih restShaped
      exact ⟨head ++ front, back, by rw [List.append_assoc],
        ⟨head, front, rfl, firstShaped, frontShaped⟩, tokenShaped⟩

/-- Literals stand for their characters and for nothing else. -/
theorem matches_literals_iff {dialect : Dialect} {text : Text} {input : List UInt8} :
    (Token.sequenceShape dialect (text.map .literal)).Matches input ↔ input = text.bytes := by
  induction text generalizing input with
  | nil => exact Iff.rfl
  | cons c rest ih =>
      rw [List.map_cons, Token.sequenceShape, Token.shape, Text.bytes_cons]
      simp only [Shape.Matches, matches_bytes_iff, ih]
      constructor
      · rintro ⟨_, _, rfl, rfl, rfl⟩
        rfl
      · intro same
        exact ⟨_, _, same, rfl, rfl⟩

/-! ## Starts -/

/-- Bytes that everything starts with that tokens, the latest first, stand for. -/
def Starts (front : List UInt8) (tokens : List Token) : Prop :=
  ∀ input, (Token.sequenceShape .filter tokens.reverse).Matches input → front <+: input

theorem Starts.of_literals (text : Text) : Starts text.bytes (text.reverse.map .literal) := by
  intro input shaped
  rw [← List.map_reverse, List.reverse_reverse, matches_literals_iff] at shaped
  exact shaped ▸ List.prefix_refl _

variable {front : List UInt8} {tokens : List Token}

theorem Starts.push (starts : Starts front tokens) (token : Token) :
    Starts front (token :: tokens) := by
  intro input shaped
  rw [List.reverse_cons] at shaped
  obtain ⟨before, back, rfl, beforeShaped, _⟩ := exists_of_matches_concat shaped
  exact (starts before beforeShaped).trans (List.prefix_append before back)

/-- A token that can stand for a single separator gives way to one that stands for nothing
without a separator at its start. -/
theorem Starts.replace {token replacement : Token} (starts : Starts front (token :: tokens))
    (separator : (token.shape .filter).Matches [ByteClass.slash])
    (separated : ∀ input, (replacement.shape .filter).Matches input →
      [ByteClass.slash] <+: input) : Starts front (replacement :: tokens) := by
  intro input shaped
  rw [List.reverse_cons] at shaped
  obtain ⟨before, back, rfl, beforeShaped, replacementShaped⟩ := exists_of_matches_concat shaped
  obtain ⟨rest, rfl⟩ := separated back replacementShaped
  have shorter : front <+: before ++ [ByteClass.slash] := by
    apply starts
    rw [List.reverse_cons]
    exact matches_sequence_concat beforeShaped separator
  exact shorter.trans ((List.prefix_append_right_inj before).mpr (List.prefix_append _ rest))

/-- **The token in front of two stars gives way to them without changing the start.** -/
theorem Starts.replaceLast (starts : Starts front tokens) (ends : EndInSeparator tokens)
    {replacement : Token} (separated : ∀ input, (replacement.shape .filter).Matches input →
      [ByteClass.slash] <+: input) : Starts front (replaceLast replacement tokens) := by
  cases tokens with
  | nil => exact absurd ends id
  | cons token earlier =>
      cases token with
      | literal c =>
          obtain rfl : c = '/' := ends
          exact starts.replace (matches_bytes [ByteClass.slash]) separated
      | leadingDirectories => exact starts
      | innerDirectories =>
          have nothing : Token.anyDirectories.Matches [] := Or.inl rfl
          exact starts.replace ⟨[ByteClass.slash], [], rfl, ⟨_, rfl, rfl⟩, nothing⟩ separated
      | one => exact absurd ends id
      | many => exact absurd ends id
      | trailingEntries => exact absurd ends id
      | oneOf negated ranges => exact absurd ends id
      | group alternatives => exact absurd ends id

/-- What stands for a separator and something behind it starts with a separator. -/
theorem separator_isPrefix {rest : Shape} {input : List UInt8}
    (shaped : (Shape.append (Token.byte ByteClass.slash) rest).Matches input) :
    [ByteClass.slash] <+: input := by
  obtain ⟨front, back, rfl, separator, _⟩ := shaped
  have single : front = [ByteClass.slash] := by
    apply matches_bytes_iff.mp
    exact ⟨front, [], (List.append_nil front).symm, separator, rfl⟩
  rw [single]
  exact List.prefix_append _ back

/-- **Two stars outside all groups keep the start**, and they take a separator along only if
they stand for directories. -/
theorem starts_readTwoStars {behind : Option Char} (starts : Starts front tokens)
    (separated : behind = some '/' → EndInSeparator tokens) (text : Text) :
    Starts front (readTwoStars false behind tokens text).1 ∧
      ((readTwoStars false behind tokens text).2.length < text.length →
        EndInSeparator (readTwoStars false behind tokens text).1) := by
  rcases readTwoStars_cases behind tokens text with
    plain | ⟨rfl, atStart⟩ | ⟨directory, inside⟩
  · rw [plain]
    exact ⟨(starts.push .many).push .many, fun shorter => absurd shorter (Nat.lt_irrefl _)⟩
  · have leading := starts.push .leadingDirectories
    rcases atStart with ⟨_, whole⟩ | ⟨rest, _, start⟩
    · rw [whole]
      exact ⟨leading, fun _ => trivial⟩
    · rw [start]
      exact ⟨leading, fun _ => trivial⟩
  · have ends := separated directory
    rcases inside with ⟨rfl, atEnd⟩ | ⟨rest, rfl, between⟩
    · rw [atEnd]
      refine ⟨starts.replaceLast ends fun _ => separator_isPrefix, ?_⟩
      exact fun shorter => absurd shorter (Nat.not_lt_zero _)
    · rw [between]
      refine ⟨starts.replaceLast ends fun _ => separator_isPrefix, fun _ => ?_⟩
      unfold Glob.replaceLast
      split
      · trivial
      · exact absurd ends id
      · trivial
      · exact absurd ends id

/-! ## Reading -/

/-- The tokens outside all groups, the latest first. -/
def outermost : List OpenGroup → List Token → List Token
  | [], tokens => tokens
  | group :: groups, _ => outermost groups group.outer

theorem Starts.push_outermost {groups : List OpenGroup}
    (starts : Starts front (outermost groups tokens)) (token : Token) :
    Starts front (outermost groups (token :: tokens)) := by
  cases groups with
  | nil => exact starts.push token
  | cons group groups => exact starts

/-- **Reading keeps the start.** -/
theorem starts_readTokens {groups : List OpenGroup} {result : List Token}
    {behind : Option Char} {loose : Bool} {text : Text}
    (starts : Starts front (outermost groups tokens))
    (separated : groups = [] → behind = some '/' → EndInSeparator tokens)
    (read : readTokens .filter groups tokens behind loose text = .ok result) :
    Starts front result := by
  fun_induction readTokens Dialect.filter groups tokens behind loose text with
  | case1 groups tokens behind loose closed =>
      cases read
      rw [List.isEmpty_iff.mp closed] at starts
      exact starts
  | case2 => cases read
  | case3 groups tokens behind loose rest ih =>
      exact ih (starts.push_outermost .one) (by simp) read
  | case4 groups tokens behind loose rest _ stars last =>
      rename_i ih
      cases groups with
      | nil =>
          obtain ⟨kept, directory⟩ := starts_readTwoStars starts (separated rfl) rest
          refine ih kept (fun _ same => directory ?_) read
          -- The character behind counts as a separator only if the stars took one along.
          simpa [last, stars, outermost] using same
      | cons group groups => exact ih starts (fun none => absurd none (List.cons_ne_nil _ _)) read
  | case5 groups tokens behind loose rest _ ih =>
      exact ih (starts.push_outermost .many) (by simp) read
  | case6 groups tokens behind rest ih =>
      exact ih (starts.push_outermost (.literal '[')) (by simp) read
  | case7 groups tokens behind loose rest _ token after _ _ ih =>
      exact ih (starts.push_outermost token) (by simp) read
  | case8 groups tokens behind loose rest _ _ _ ih =>
      exact ih (starts.push_outermost (.literal '[')) (by simp) read
  | case9 => cases read
  | case10 => cases read
  | case11 groups tokens behind loose rest ih => exact ih starts (by simp) read
  | case12 => cases read
  | case13 tokens behind loose rest group groups alternatives ih =>
      have closed : Starts front (outermost groups group.outer) := starts
      have same : alternatives = (tokens.reverse :: group.alternatives).reverse := by
        simp [alternatives]
      rw [same] at ih
      exact ih (closed.push_outermost _) (by simp) read
  | case14 tokens behind loose rest ih => exact ih (starts.push (.literal ',')) (by simp) read
  | case15 tokens behind loose rest group groups alternatives ih =>
      have same : alternatives = tokens.reverse :: group.alternatives := by simp [alternatives]
      rw [same] at ih
      exact ih starts (by simp) read
  | case16 => cases read
  | case17 groups tokens behind loose c rest ih =>
      exact ih (starts.push_outermost (.literal c)) (fun _ same => Option.some.inj same) read
  | case18 groups tokens behind loose c rest =>
      rename_i ih
      exact ih (starts.push_outermost (.literal c)) (fun _ same => Option.some.inj same) read

/-! ## Ordinary characters -/

/-- Has a character no meaning of its own, wherever it stands outside all groups? -/
def isOrdinary (c : Char) : Bool := !isSpecial c && c != '\\'

theorem isOrdinary_iff {c : Char} : isOrdinary c = true ↔ isSpecial c = false ∧ c ≠ '\\' := by
  rw [isOrdinary, Bool.and_eq_true, Bool.not_eq_true', bne_iff_ne]

/-- An ordinary character is read into a literal. -/
theorem readTokens_ordinary_cons {behind : Option Char} {loose : Bool} {c : Char} {rest : Text}
    {result : List Token} (ordinary : isOrdinary c = true)
    (read : readTokens .filter [] tokens behind loose (c :: rest) = .ok result) :
    readTokens .filter [] (.literal c :: tokens) (some c) loose rest = .ok result := by
  rw [isOrdinary_iff] at ordinary
  simp only [isSpecial, Bool.or_eq_false_iff, beq_eq_false_iff_ne] at ordinary
  obtain ⟨⟨⟨⟨notStar, notQuestion⟩, notBracket⟩, notBrace⟩, notEscape⟩ := ordinary
  by_cases comma : c = ','
  · subst comma
    rwa [readTokens] at read
  · by_cases brace : c = '\x7d'
    · subst brace
      rw [readTokens] at read
      cases read
    · rwa [readTokens] at read
      all_goals
        intros
        contradiction

/-- **Ordinary characters outside all groups are read into literals.** -/
theorem readTokens_ordinary {text rest : Text} (ordinary : ∀ c ∈ text, isOrdinary c = true)
    {behind : Option Char} {loose : Bool} {result : List Token}
    (read : readTokens .filter [] tokens behind loose (text ++ rest) = .ok result) :
    readTokens .filter [] (text.reverse.map .literal ++ tokens) (text.getLast?.or behind) loose
      rest = .ok result := by
  induction text generalizing tokens behind with
  | nil => exact read
  | cons c more ih =>
      have first := readTokens_ordinary_cons (ordinary c List.mem_cons_self) read
      have later := ih (fun d member => ordinary d (List.mem_cons_of_mem _ member)) first
      rw [List.reverse_cons, List.map_append, List.append_assoc]
      cases more with
      | nil => exact later
      | cons d others => rwa [List.getLast?_cons_cons]

/-- **What has the shape of a glob starts with the ordinary characters that the glob starts
with.** -/
theorem bytes_isPrefix_of_matches {text rest : Text} {result : List Token}
    (ordinary : ∀ c ∈ text, isOrdinary c = true)
    (isRead : read .filter (text ++ rest) = .ok result) {input : List UInt8}
    (shaped : (Token.globShape .filter result).Matches input) : text.bytes <+: input := by
  obtain ⟨latestFirst, outcome, rfl⟩ := read_eq_ok_iff.mp isRead
  have behindText := readTokens_ordinary ordinary outcome
  rw [List.append_nil, Option.or_none] at behindText
  have separated : text.getLast? = some '/' → EndInSeparator (text.reverse.map .literal) := by
    intro last
    obtain ⟨front, rfl⟩ := List.getLast?_eq_some_iff.mp last
    rw [List.reverse_concat]
    rfl
  have literals : Starts text.bytes (outermost [] (text.reverse.map .literal)) :=
    Starts.of_literals text
  have starts := starts_readTokens literals (fun _ => separated) behindText
  unfold Token.globShape at shaped
  split at shaped
  · -- Two stars alone stand for everything, and are no reading behind any other character.
    rename_i alone
    rw [List.reverse_eq_iff] at alone
    subst alone
    have empty := starts [] ⟨[], [], rfl, Or.inl rfl, rfl⟩
    rw [List.prefix_nil.mp empty]
    exact List.nil_prefix
  · exact starts input shaped

/-! ## Matching -/

section Matching

variable {pattern : Text} {glob : Glob} {path : Path}

theorem exists_tokens_of_isMatch (isRead : Globs.IsRead pattern glob)
    (found : glob.isMatch path = true) :
    ∃ tokens, read .filter pattern = .ok tokens ∧
      (Token.globShape .filter tokens).Matches path.written.bytes := by
  obtain ⟨tokens, tokensRead, _, rfl⟩ := Globs.isRead_iff.mp isRead
  rw [isMatch, Bool.and_eq_true] at found
  exact ⟨tokens, tokensRead, (Shape.accepts_iff _ _).mp found.2⟩

/-- **A path that a glob matches starts with the ordinary characters that the glob starts
with.** -/
theorem isPrefix_of_isMatch (isRead : Globs.IsRead pattern glob)
    (found : glob.isMatch path = true) {start : Text} (starts : start <+: pattern)
    (ordinary : ∀ c ∈ start, isOrdinary c = true) : start <+: path.written := by
  obtain ⟨tokens, tokensRead, shaped⟩ := exists_tokens_of_isMatch isRead found
  obtain ⟨rest, rfl⟩ := starts
  exact Text.isPrefix_of_bytes (bytes_isPrefix_of_matches ordinary tokensRead shaped)

/-- **A glob of ordinary characters matches no path but its own text.** -/
theorem written_of_isMatch (isRead : Globs.IsRead pattern glob)
    (found : glob.isMatch path = true) (ordinary : ∀ c ∈ pattern, isOrdinary c = true) :
    path.written = pattern := by
  obtain ⟨tokens, tokensRead, shaped⟩ := exists_tokens_of_isMatch isRead found
  obtain ⟨latestFirst, outcome, rfl⟩ := read_eq_ok_iff.mp tokensRead
  rw [← List.append_nil pattern] at outcome
  have atEnd := readTokens_ordinary ordinary outcome
  rw [List.append_nil, readTokens] at atEnd
  cases atEnd
  rw [← List.map_reverse, List.reverse_reverse] at shaped
  unfold Token.globShape at shaped
  split at shaped
  · rename_i alone
    have directories : Token.leadingDirectories ∈ pattern.map .literal := by
      rw [alone]
      exact List.mem_cons_self
    obtain ⟨_, _, same⟩ := List.mem_map.mp directories
    cases same
  · exact Text.bytes_injective (matches_literals_iff.mp shaped)

end Matching

end StateSheet.Glob
