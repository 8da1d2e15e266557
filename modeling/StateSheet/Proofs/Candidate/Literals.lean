import StateSheet.Proofs.Candidate.Attribute

/-!
# String literals

A quoted body is read exactly where it stands with its closing quote behind it
(`quotedBody_of_readBody?` and `readBody?_append`), so a quote opens nothing
exactly when what follows it closes no body (`readBody?_eq_none_iff`).

A text of literals is a run of literals with gaps free of quotes around them
(`LiteralText`). The pass over such a text gives the bodies of its literals and
goes on behind it (`LiteralText.literals_append`); a quote that closes nowhere is
passed over alone (`literals_of_unclosed`). Every text is a text of literals up
to its first stray quote (`LiteralText.exists_front`), so the two facts settle
the pass on every text (`literals_are_the_quoted_bodies`).
-/

set_option autoImplicit false

namespace StateSheet.Candidate

/-! ## What is read as a body -/

/-- What was read behind the part already begun is a body, and its closing quote
stands in front of the rest. -/
theorem quotedBody_of_readBodyAfter {quote : Char} {begun text body rest : Text}
    (found : readBodyAfter quote begun text = some (body, rest)) :
    ∃ more, QuotedBody quote more ∧ body = begun.reverse ++ more ∧
      text = more ++ quote :: rest := by
  fun_induction readBodyAfter quote begun text with
  | case1 => cases found
  | case2 => cases found
  | case3 begun escaped after ih =>
      obtain ⟨more, quoted, rfl, rfl⟩ := ih found
      exact ⟨'\\' :: escaped :: more, .escaped quoted, by simp, rfl⟩
  | case4 begun after =>
      obtain ⟨rfl, rfl⟩ := Prod.mk.inj (Option.some.inj found)
      exact ⟨[], .nil, by simp, rfl⟩
  | case5 => cases found
  | case6 begun c after notLone notEscape notQuote unbroken ih =>
      obtain ⟨more, quoted, rfl, rfl⟩ := ih found
      -- A backslash would have taken the next character along, or ended the text.
      have plain : c ≠ '\\' := by
        rintro rfl
        cases more with
        | nil => exact notEscape _ _ rfl rfl
        | cons d others => exact notEscape _ _ rfl rfl
      have keepsLine : c = '\n' → quote = '`' := fun line =>
        Decidable.byContradiction fun single => unbroken ⟨line, single⟩
      exact ⟨c :: more, .plain plain notQuote keepsLine quoted, by simp, rfl⟩

/-- **Whatever is read as a body is one**, with its closing quote behind it. -/
theorem quotedBody_of_readBody? {quote : Char} {text body rest : Text}
    (found : readBody? quote text = some (body, rest)) :
    QuotedBody quote body ∧ text = body ++ quote :: rest := by
  obtain ⟨more, quoted, rfl, parts⟩ := quotedBody_of_readBodyAfter found
  exact ⟨quoted, parts⟩

/-- A text is a body when it is read back whole in front of its quote. -/
theorem QuotedBody.of_readBody? {quote : Char} {body : Text}
    (found : readBody? quote (body ++ [quote]) = some (body, [])) : QuotedBody quote body :=
  (quotedBody_of_readBody? found).1

/-- A text that closes no body in quotes of a kind: wherever the quote stands in
it, a backslash takes it along, or, between single or double quotes, the line has
ended before. -/
def Unclosed (quote : Char) (text : Text) : Prop :=
  ∀ body rest, QuotedBody quote body → text ≠ body ++ quote :: rest

/-- A text that holds no quote of any kind. -/
def QuoteFree (text : Text) : Prop := ∀ c ∈ text, isQuote c = false

instance (text : Text) : Decidable (QuoteFree text) := List.decidableBAll _ text

/-- **A quote opens nothing exactly when what follows it closes no body.** -/
theorem readBody?_eq_none_iff {quote : Char} (isAQuote : isQuote quote = true) {text : Text} :
    readBody? quote text = none ↔ Unclosed quote text := by
  constructor
  · rintro absent body rest quoted rfl
    rw [readBody?_append quoted (ne_backslash_of_isQuote isAQuote)] at absent
    cases absent
  · intro unclosed
    cases found : readBody? quote text with
    | none => rfl
    | some parts =>
        obtain ⟨quoted, written⟩ := quotedBody_of_readBody? found
        exact absurd written (unclosed parts.1 parts.2 quoted)

/-! ## The pass over the literals -/

theorem literals_of_not_quote {c : Char} (plain : isQuote c = false) (rest : Text) :
    literals (c :: rest) = literals rest := by
  rw [literals, plain]
  rfl

theorem literals_of_body {quote : Char} (isAQuote : isQuote quote = true) {body : Text}
    (quoted : QuotedBody quote body) (rest : Text) :
    literals (quote :: (body ++ quote :: rest)) = body :: literals rest := by
  have read := readBody?_append quoted (ne_backslash_of_isQuote isAQuote) rest
  rw [literals, if_pos isAQuote]
  split
  · next found =>
      obtain ⟨rfl, rfl⟩ := Prod.mk.inj (Option.some.inj (read.symm.trans found))
      rfl
  · next absent =>
      rw [read] at absent
      cases absent

/-- **A quote that closes nowhere is passed over alone.** -/
theorem literals_of_unclosed {quote : Char} (isAQuote : isQuote quote = true) {rest : Text}
    (unclosed : Unclosed quote rest) : literals (quote :: rest) = literals rest := by
  have absent := (readBody?_eq_none_iff isAQuote).mpr unclosed
  rw [literals, if_pos isAQuote]
  split
  · next found =>
      rw [absent] at found
      cases found
  · rfl

theorem literals_gap {gap : Text} (plain : QuoteFree gap) (rest : Text) :
    literals (gap ++ rest) = literals rest := by
  induction gap with
  | nil => rfl
  | cons c more ih =>
      rw [List.cons_append, literals_of_not_quote (plain c List.mem_cons_self)]
      exact ih fun d member => plain d (List.mem_cons_of_mem _ member)

/-! ## Texts of literals -/

/-- A string literal, and the gap behind it that holds no quote. -/
structure Literal where
  quote : Char
  body : Text
  gap : Text
  isAQuote : isQuote quote = true
  quoted : QuotedBody quote body
  gapPlain : QuoteFree gap

/-- The text of a literal: its body between two of its quotes, and its gap. -/
def Literal.written (literal : Literal) : Text :=
  literal.quote :: (literal.body ++ literal.quote :: literal.gap)

/-- A run of literals, behind a gap that holds no quote. -/
structure LiteralText where
  gap : Text
  literals : List Literal
  gapPlain : QuoteFree gap

namespace LiteralText

/-- The text of a run of literals. -/
def written (text : LiteralText) : Text := text.gap ++ text.literals.flatMap Literal.written

/-- The bodies of a run of literals, in order. -/
def bodies (text : LiteralText) : List Text := text.literals.map Literal.body

/-- **The pass gives the bodies of a run of literals**, and goes on behind it. -/
theorem literals_append (text : LiteralText) (rest : Text) :
    Candidate.literals (text.written ++ rest) = text.bodies ++ Candidate.literals rest := by
  have run : ∀ list : List Literal, Candidate.literals (list.flatMap Literal.written ++ rest) =
      list.map Literal.body ++ Candidate.literals rest := by
    intro list
    induction list with
    | nil => rfl
    | cons literal more ih =>
        rw [List.flatMap_cons, Literal.written, List.append_assoc, List.cons_append,
          List.append_assoc, List.cons_append, literals_of_body literal.isAQuote literal.quoted,
          literals_gap literal.gapPlain, ih]
        rfl
  rw [written, List.append_assoc, literals_gap text.gapPlain]
  exact run text.literals

/-- **Every text is a run of literals up to its first stray quote.** -/
theorem exists_front (text : Text) :
    ∃ front : LiteralText, text = front.written ∨
      ∃ quote rest, isQuote quote = true ∧ Unclosed quote rest ∧
        text = front.written ++ quote :: rest := by
  fun_induction Candidate.literals text with
  | case1 => exact ⟨⟨[], [], by decide⟩, .inl rfl⟩
  | case2 quote rest isAQuote body after found shorter ih =>
      obtain ⟨quoted, rfl⟩ := quotedBody_of_readBody? found
      obtain ⟨front, reached⟩ := ih
      -- The gap in front of the run behind the literal becomes its own.
      refine ⟨⟨[], ⟨quote, body, front.gap, isAQuote, quoted, front.gapPlain⟩ :: front.literals,
        by decide⟩, ?_⟩
      rcases reached with rfl | ⟨stray, behind, isStray, unclosed, rfl⟩
      · exact .inl (by simp [written, Literal.written])
      · exact .inr ⟨stray, behind, isStray, unclosed, by simp [written, Literal.written]⟩
  | case3 quote rest isAQuote absent ih =>
      have unclosed := (readBody?_eq_none_iff isAQuote).mp absent
      exact ⟨⟨[], [], by decide⟩, .inr ⟨quote, rest, isAQuote, unclosed, rfl⟩⟩
  | case4 c rest notQuote ih =>
      have plain : isQuote c = false := Bool.not_eq_true _ ▸ notQuote
      obtain ⟨front, reached⟩ := ih
      refine ⟨⟨c :: front.gap, front.literals, List.forall_mem_cons.mpr ⟨plain, front.gapPlain⟩⟩,
        ?_⟩
      rcases reached with rfl | ⟨stray, behind, isStray, unclosed, rfl⟩
      · exact .inl rfl
      · exact .inr ⟨stray, behind, isStray, unclosed, rfl⟩

end LiteralText

/-- **The pass over the literals of a text reads exactly what is quoted.** Of a
run of literals it gives the bodies, each as it is written, with its backslashes.
A quote behind such a run that closes nowhere gives nothing, and the pass goes on
with the character behind it. One of the two is the case of every text. -/
theorem literals_are_the_quoted_bodies :
    (∀ text : LiteralText, literals text.written = text.bodies) ∧
    (∀ (front : LiteralText) (quote : Char) (rest : Text), isQuote quote = true →
      Unclosed quote rest →
        literals (front.written ++ quote :: rest) = front.bodies ++ literals rest) ∧
    ∀ text : Text, ∃ front : LiteralText, text = front.written ∨
      ∃ quote rest, isQuote quote = true ∧ Unclosed quote rest ∧
        text = front.written ++ quote :: rest := by
  refine ⟨fun text => ?_, fun front quote rest isAQuote unclosed => ?_, LiteralText.exists_front⟩
  · have read := text.literals_append []
    rwa [List.append_nil, literals, List.append_nil] at read
  · rw [front.literals_append, literals_of_unclosed isAQuote unclosed]

/-- An escaped quote in double quotes and a body in backticks that holds two
single quotes and runs over two lines, in front of an apostrophe that the end of
its line leaves open. -/
theorem literals_are_the_quoted_bodies_around_apostrophe :
    isQuote '\'' = true ∧ Unclosed '\'' "s\n'flex'".toList ∧
    literals "cn(\"ui-open:w-[\\\"]\", `p-2\n'm'`) it's\n'flex'".toList =
      ["ui-open:w-[\\\"]".toList, "p-2\n'm'".toList, "flex".toList] := by
  have doubled : QuotedBody '"' "ui-open:w-[\\\"]".toList :=
    .of_readBody? (by decide)
  have overLines : QuotedBody '`' "p-2\n'm'".toList :=
    .of_readBody? (by decide)
  have single : QuotedBody '\'' "flex".toList :=
    .of_readBody? (by decide)
  have isStray : isQuote '\'' = true := by decide
  have unclosed : Unclosed '\'' "s\n'flex'".toList :=
    (readBody?_eq_none_iff isStray).mp (by decide)
  let front : LiteralText :=
    { gap := "cn(".toList
      literals :=
        [{ quote := '"', body := "ui-open:w-[\\\"]".toList, gap := ", ".toList
           isAQuote := rfl, quoted := doubled, gapPlain := by decide },
         { quote := '`', body := "p-2\n'm'".toList, gap := ") it".toList
           isAQuote := rfl, quoted := overLines, gapPlain := by decide }]
      gapPlain := by decide }
  let behind : LiteralText :=
    { gap := "s\n".toList
      literals :=
        [{ quote := '\'', body := "flex".toList, gap := [], isAQuote := rfl, quoted := single
           gapPlain := by decide }]
      gapPlain := by decide }
  have goesOn := literals_are_the_quoted_bodies.2.1 front '\'' behind.written isStray unclosed
  rw [literals_are_the_quoted_bodies.1 behind] at goesOn
  exact ⟨isStray, unclosed, goesOn⟩

end StateSheet.Candidate
