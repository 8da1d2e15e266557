import StateSheet.Glob.Basic

/-!
# Globs that match their own text

A path that is used as a glob is meant to match itself. It does as long as no
character of it opens a class or a group or is a backslash (`isMatch_ownText`):
wildcards match themselves among other things, and stars that stand for
directories match the stars and separators that they were read from.

While such a glob is read, the tokens so far stand for the text so far
(`Covers`). Each step of the reader keeps that (`covers_readTokens`), and tokens
that cover a text have its shape (`Covers.hasShape`).
-/

set_option autoImplicit false

namespace StateSheet.Glob

/-! ## Shapes of tokens one behind another -/

theorem contains_any (b : UInt8) : ByteClass.any.contains b = true := rfl

theorem matches_many_any (input : List UInt8) : (Shape.many .any).Matches input :=
  fun b _ => contains_any b

theorem matches_bytes (bytes : List UInt8) :
    (Shape.sequence (bytes.map Token.byte)).Matches bytes := by
  induction bytes with
  | nil => rfl
  | cons b rest ih =>
      refine ⟨[b], rest, rfl, ⟨b, rfl, ?_⟩, ih⟩
      simp [ByteClass.single, ByteClass.contains]

/-- Any directories are nothing or whatever ends in a separator. -/
theorem matches_anyDirectories (front : List UInt8) :
    Token.anyDirectories.Matches (front ++ [ByteClass.slash]) :=
  Or.inr ⟨front, [ByteClass.slash], rfl, matches_many_any front, ⟨ByteClass.slash, rfl, rfl⟩⟩

theorem matches_sequence_concat {dialect : Dialect} {tokens : List Token} {token : Token}
    {front back : List UInt8}
    (before : (Token.sequenceShape dialect tokens).Matches front)
    (behind : (token.shape dialect).Matches back) :
    (Token.sequenceShape dialect (tokens ++ [token])).Matches (front ++ back) := by
  induction tokens generalizing front with
  | nil =>
      have nothing : front = [] := before
      subst nothing
      exact ⟨back, [], by simp, behind, rfl⟩
  | cons first rest ih =>
      simp only [Token.sequenceShape] at before
      obtain ⟨head, tail, rfl, firstMatches, restMatches⟩ := before
      exact ⟨head, tail ++ back, by simp, firstMatches, ih restMatches⟩

/-! ## Tokens that stand for the text they were read from -/

/-- Does a character open something in a glob, so that the text of the glob is no
path that it matches? A backslash opens an escape. -/
def isOpening (c : Char) : Bool := c == '[' || c == '\x7b' || c == '\\'

/-- Tokens, the latest first, that stand for a text. -/
inductive Covers : List Token → Text → Prop where
  | start : Covers [] []
  | literal {tokens : List Token} {front : Text} (c : Char) :
      Covers tokens front → Covers (.literal c :: tokens) (front ++ [c])
  | one {tokens : List Token} {front : Text} :
      Covers tokens front → Covers (.one :: tokens) (front ++ ['?'])
  | many {tokens : List Token} {front : Text} :
      Covers tokens front → Covers (.many :: tokens) (front ++ ['*'])
  | leading (directories : Text) : Covers [.leadingDirectories] (directories ++ ['/'])
  | inner {tokens : List Token} {front : Text} (directories : Text) :
      Covers tokens front →
        Covers (.innerDirectories :: tokens) (front ++ '/' :: (directories ++ ['/']))
  | trailing {tokens : List Token} {front : Text} (entries : Text) :
      Covers tokens front → Covers (.trailingEntries :: tokens) (front ++ '/' :: entries)

theorem bytes_append (first second : Text) :
    Text.bytes (first ++ second) = Text.bytes first ++ Text.bytes second :=
  List.flatMap_append

theorem bytes_slash_cons (rest : Text) :
    Text.bytes ('/' :: rest) = ByteClass.slash :: Text.bytes rest := rfl

theorem bytes_slash : Text.bytes ['/'] = [ByteClass.slash] := rfl

/-- Tokens that cover a text have its shape. -/
theorem Covers.hasShape {tokens : List Token} {text : Text} (covered : Covers tokens text) :
    (Token.sequenceShape .filter tokens.reverse).Matches (Text.bytes text) := by
  induction covered with
  | start => rfl
  | literal c _ ih =>
      rw [List.reverse_cons, bytes_append]
      refine matches_sequence_concat ih ?_
      rw [Text.bytes, List.flatMap_singleton, Token.shape]
      exact matches_bytes _
  | one _ ih =>
      rw [List.reverse_cons, bytes_append]
      exact matches_sequence_concat ih ⟨63, rfl, rfl⟩
  | many _ ih =>
      rw [List.reverse_cons, bytes_append]
      exact matches_sequence_concat ih (matches_many_any _)
  | leading directories =>
      rw [bytes_append, bytes_slash]
      exact ⟨_, [], by simp, matches_anyDirectories (Text.bytes directories), rfl⟩
  | inner directories _ ih =>
      rw [List.reverse_cons, bytes_append, bytes_slash_cons, bytes_append, bytes_slash]
      exact matches_sequence_concat ih
        ⟨[ByteClass.slash], _, rfl, ⟨_, rfl, rfl⟩, matches_anyDirectories _⟩
  | trailing entries _ ih =>
      rw [List.reverse_cons, bytes_append, bytes_slash_cons]
      exact matches_sequence_concat ih
        ⟨[ByteClass.slash], _, rfl, ⟨_, rfl, rfl⟩, matches_many_any _⟩

/-! ## Reading -/

/-- Is a separator the last thing that tokens, the latest first, stand for? -/
def EndInSeparator : List Token → Prop
  | .literal c :: _ => c = '/'
  | .leadingDirectories :: _ => True
  | .innerDirectories :: _ => True
  | _ => False

/-- Behind a separator, the token that ends in it gives way to two stars, unless
it stands for leading directories already. -/
theorem Covers.cases_of_separator {tokens : List Token} {front : Text}
    (covered : Covers tokens front) (separated : EndInSeparator tokens) :
    tokens = [.leadingDirectories] ∨
      ∃ earlier before middle, Covers earlier before ∧ front = before ++ '/' :: middle ∧
        ∀ replacement, replaceLast replacement tokens = replacement :: earlier := by
  cases covered with
  | start => exact absurd separated id
  | @literal earlier before c coveredBefore =>
      have slash : c = '/' := separated
      subst slash
      exact Or.inr ⟨earlier, before, [], coveredBefore, rfl, fun _ => rfl⟩
  | one _ => exact absurd separated id
  | many _ => exact absurd separated id
  | leading directories => exact Or.inl rfl
  | @inner earlier before directories coveredBefore =>
      exact Or.inr ⟨earlier, before, _, coveredBefore, rfl, fun _ => rfl⟩
  | trailing entries _ => exact absurd separated id

/-- What two stars can be read into outside all groups: two plain stars, or a
token for directories that stands at the start, at the end or between
separators. -/
theorem readTwoStars_cases (behind : Option Char) (tokens : List Token) (text : Text) :
    readTwoStars false behind tokens text = (.many :: .many :: tokens, text) ∨
      tokens = [] ∧
        (text = [] ∧ readTwoStars false behind tokens text = ([.leadingDirectories], []) ∨
          ∃ rest, text = '/' :: rest ∧
            readTwoStars false behind tokens text = ([.leadingDirectories], rest)) ∨
      behind = some '/' ∧
        (text = [] ∧
            readTwoStars false behind tokens text = (replaceLast .trailingEntries tokens, []) ∨
          ∃ rest, text = '/' :: rest ∧
            readTwoStars false behind tokens text =
              (replaceLast .innerDirectories tokens, rest)) := by
  unfold readTwoStars
  split
  · rename_i empty
    have none : tokens = [] := List.isEmpty_iff.mp empty
    split
    · exact Or.inr (Or.inl ⟨none, Or.inl ⟨rfl, rfl⟩⟩)
    · exact Or.inr (Or.inl ⟨none, Or.inr ⟨_, rfl, rfl⟩⟩)
    · exact Or.inl rfl
  · split
    · rename_i separated
      have directory : behind = some '/' := by simpa using separated
      split
      · exact Or.inr (Or.inr ⟨directory, Or.inl ⟨rfl, rfl⟩⟩)
      · exact Or.inr (Or.inr ⟨directory, Or.inr ⟨_, rfl, rfl⟩⟩)
      · exact Or.inl rfl
    · exact Or.inl rfl

/-- Two stars outside all groups take a part of the text behind them, and the
tokens cover that too, unless the glob ends there and is nothing but directories. -/
theorem covers_readTwoStars {tokens : List Token} {behind : Option Char} {front : Text}
    (covered : Covers tokens front) (separated : behind = some '/' → EndInSeparator tokens)
    (text : Text) :
    readTwoStars false behind tokens text = ([.leadingDirectories], []) ∧ text = [] ∨
      ∃ taken read rest, readTwoStars false behind tokens text = (read, rest) ∧
        text = taken ++ rest ∧ Covers read (front ++ '*' :: '*' :: taken) ∧
        (taken ≠ [] → EndInSeparator read) := by
  rcases readTwoStars_cases behind tokens text with
    plain | ⟨rfl, ⟨rfl, whole⟩ | ⟨rest, rfl, start⟩⟩ | ⟨directory, inside⟩
  · refine Or.inr ⟨[], _, _, plain, rfl, ?_, fun taken => absurd rfl taken⟩
    have twice := covered.many.many
    rwa [List.append_assoc] at twice
  · exact Or.inl ⟨whole, rfl⟩
  · cases covered
    exact Or.inr ⟨['/'], _, _, start, rfl, .leading ['*', '*'], fun _ => trivial⟩
  · rcases covered.cases_of_separator (separated directory) with
      rfl | ⟨earlier, before, middle, coveredBefore, rfl, gives⟩
    · rcases inside with ⟨rfl, atEnd⟩ | ⟨rest, rfl, between⟩
      · exact Or.inl ⟨atEnd, rfl⟩
      · cases covered with
        | leading directories =>
            refine Or.inr ⟨['/'], _, _, between, rfl, ?_, fun _ => trivial⟩
            have longer := Covers.leading (directories ++ ['/', '*', '*'])
            rwa [List.append_assoc] at longer ⊢
    · rcases inside with ⟨rfl, atEnd⟩ | ⟨rest, rfl, between⟩
      · rw [gives] at atEnd
        refine Or.inr ⟨[], _, _, atEnd, rfl, ?_, fun taken => absurd rfl taken⟩
        rw [List.append_assoc]
        exact coveredBefore.trailing _
      · rw [gives] at between
        refine Or.inr ⟨['/'], _, _, between, rfl, ?_, fun _ => trivial⟩
        have longer := coveredBefore.inner (middle ++ ['*', '*'])
        rwa [List.append_assoc] at longer ⊢

/-- **Reading keeps the text covered.** Without anything that opens a class, a
group or an escape, the tokens of a glob cover its text, or the glob is nothing but
directories. -/
theorem covers_readTokens {groups : List OpenGroup} {tokens result : List Token}
    {behind : Option Char} {loose : Bool} {text front : Text} (outside : groups = [])
    (plain : ∀ c ∈ text, isOpening c = false) (covered : Covers tokens front)
    (separated : behind = some '/' → EndInSeparator tokens)
    (read : readTokens .filter groups tokens behind loose text = .ok result) :
    Covers result (front ++ text) ∨ result = [.leadingDirectories] := by
  fun_induction readTokens Dialect.filter groups tokens behind loose text generalizing front with
  | case1 groups tokens =>
      cases read
      rw [List.append_nil]
      exact Or.inl covered
  | case2 => cases read
  | case3 groups tokens behind loose rest ih =>
      rw [List.append_cons]
      exact ih outside (fun c member => plain c (List.mem_cons_of_mem _ member)) covered.one
        (by simp) read
  | case4 groups tokens behind loose rest _ stars last =>
      rename_i ih
      subst outside
      rcases covers_readTwoStars covered separated rest with
        ⟨whole, rfl⟩ | ⟨taken, readSoFar, left, found, rfl, coveredSoFar, directory⟩
      · have atEnd : stars = ([.leadingDirectories], []) := whole
        rw [atEnd, readTokens] at read
        cases read
        exact Or.inr rfl
      · have starsRead : stars = (readSoFar, left) := found
        -- The character behind counts as a separator only if the stars took one along.
        have tookSeparator : some last = some '/' → taken ≠ [] := by
          rintro same rfl
          simp [last, starsRead] at same
        rw [starsRead] at ih read
        have plainLeft : ∀ c ∈ left, isOpening c = false := fun c member =>
          plain c (by simp [member])
        have reached := ih rfl plainLeft coveredSoFar (fun same => directory (tookSeparator same))
          read
        rwa [List.append_assoc, List.cons_append, List.cons_append] at reached
  | case5 groups tokens behind loose rest _ ih =>
      rw [List.append_cons]
      exact ih outside (fun c member => plain c (List.mem_cons_of_mem _ member)) covered.many
        (by simp) read
  | case6 => cases plain '[' List.mem_cons_self
  | case7 => cases plain '[' List.mem_cons_self
  | case8 => cases plain '[' List.mem_cons_self
  | case9 => cases plain '[' List.mem_cons_self
  | case10 => cases plain '[' List.mem_cons_self
  | case11 => cases plain '\x7b' List.mem_cons_self
  | case12 => cases read
  | case13 => cases outside
  | case14 tokens behind loose rest ih =>
      rw [List.append_cons]
      exact ih rfl (fun c member => plain c (List.mem_cons_of_mem _ member)) (covered.literal ',')
        (by simp) read
  | case15 => cases outside
  | case16 => cases plain '\\' List.mem_cons_self
  | case17 => cases plain '\\' List.mem_cons_self
  | case18 groups tokens behind loose c rest =>
      rename_i ih
      rw [List.append_cons]
      exact ih outside (fun d member => plain d (List.mem_cons_of_mem _ member))
        (covered.literal c) Option.some.inj read

/-! ## Matching -/

/-- A glob is read from its start, outside all groups. -/
theorem read_eq_ok_iff {dialect : Dialect} {text : Text} {tokens : List Token} :
    read dialect text = .ok tokens ↔
      ∃ latestFirst, readTokens dialect [] [] none false text = .ok latestFirst ∧
        tokens = latestFirst.reverse := by
  rw [read]
  cases readTokens dialect [] [] none false text with
  | error fault => simp [Except.map]
  | ok latestFirst => simp [Except.map, eq_comm]

/-- **A glob that opens nothing has the shape of its own text.** -/
theorem matches_ownText {written : Text} {tokens : List Token}
    (plain : ∀ c ∈ written, isOpening c = false) (isRead : read .filter written = .ok tokens) :
    (Token.globShape .filter tokens).Matches (Text.bytes written) := by
  obtain ⟨latestFirst, outcome, rfl⟩ := read_eq_ok_iff.mp isRead
  rcases covers_readTokens rfl plain .start (by simp) outcome with covered | rfl
  · have shaped := covered.hasShape
    unfold Token.globShape
    split
    · exact matches_many_any _
    · simpa using shaped
  · exact matches_many_any _

/-- **A path that opens nothing is matched by the glob that it makes**, unless two
dots stand at its end. -/
theorem isMatch_ownText (path : Path) {tokens : List Token}
    (plain : ∀ c ∈ path.written, isOpening c = false) (named : path.endsInParent = false)
    (isRead : read .filter path.written = .ok tokens) :
    (ofTokens path.written tokens).isMatch path = true := by
  have shaped := matches_ownText plain isRead
  simp only [isMatch, ofTokens, named, Bool.and_false, Bool.not_false, Bool.true_and]
  exact (Shape.accepts_iff _ _).mpr shaped

end StateSheet.Glob
