import StateSheet.Candidate.ClassList
import StateSheet.Proofs.Text.Nesting

/-!
# The tokens of a class list

A class list is cut at every blank at the top (`tokens_append_blank`), and a
text that hides its blanks is a token (`tokens_of_hides`). So a text that hides
its blanks and leaves nothing open is a token wherever it stands between blanks
at the top (`mem_tokens_of_between_blanks`).

In turn a class list is laid out in its tokens, with blanks at the top around them
(`laidOut_tokens`). No token but the last leaves a bracket or a parenthesis open,
since a blank behind it would not be at the top, so every token begins with nothing
open. Hence it is a part of the list that is not empty and hides its blanks
(`isTokenOf_of_mem`).
-/

set_option autoImplicit false

namespace StateSheet.Candidate

theorem isBracket_of_isBlank {c : Char} (blank : isBlank c = true) :
    Nesting.isBracket c = false := by
  rw [← Bool.not_eq_true]
  intro bracket
  simp only [Nesting.isBracket, Bool.or_eq_true, beq_iff_eq] at bracket
  rcases bracket with ((rfl | rfl) | rfl) | rfl <;> cases blank

theorem step_of_isBlank {nesting : Nesting} {c : Char} (blank : isBlank c = true) :
    nesting.step c = nesting :=
  Nesting.step_of_not_isBracket (isBracket_of_isBlank blank)

/-- What was begun is a token of its own where a blank at the top ends it, and
the tokens behind the blank start afresh. -/
theorem tokensAfter_append_blank {nesting : Nesting} {begun text : Text} {blank : Char}
    (isABlank : isBlank blank = true) (closed : nesting.after text = {}) (rest : Text) :
    tokensAfter nesting begun (text ++ blank :: rest) =
      tokensAfter nesting begun text ++ tokens rest := by
  induction text generalizing nesting begun with
  | nil =>
      rw [Nesting.after_nil] at closed
      subst closed
      have atTop : (Nesting.step {} blank).isTop = true := by
        rw [step_of_isBlank isABlank]
        rfl
      rw [List.nil_append, tokensAfter, tokensAfter, isABlank, atTop, step_of_isBlank isABlank]
      by_cases fresh : begun = []
      · simp [fresh, tokens]
      · simp [fresh, tokens]
  | cons c more ih =>
      rw [Nesting.after_cons] at closed
      rw [List.cons_append, tokensAfter, tokensAfter]
      by_cases cut : (isBlank c && (nesting.step c).isTop) = true
      · rw [if_pos cut, if_pos cut]
        by_cases fresh : begun = []
        · rw [if_pos fresh, if_pos fresh, ih closed]
        · rw [if_neg fresh, if_neg fresh, ih closed, List.cons_append]
      · rw [if_neg cut, if_neg cut, ih closed]

/-- **A class list is cut at every blank at the top.** -/
theorem tokens_append_blank {text : Text} {blank : Char} (isABlank : isBlank blank = true)
    (closed : Nesting.after {} text = {}) (rest : Text) :
    tokens (text ++ blank :: rest) = tokens text ++ tokens rest :=
  tokensAfter_append_blank isABlank closed rest

/-- Blanks in front of a class list give no token. -/
theorem tokens_blanks_append {blanks : Text} (blank : ∀ c ∈ blanks, isBlank c = true)
    (rest : Text) : tokens (blanks ++ rest) = tokens rest := by
  induction blanks with
  | nil => rfl
  | cons c more ih =>
      have cut := tokens_append_blank (blank c List.mem_cons_self) (Nesting.after_nil {})
        (more ++ rest)
      rw [List.nil_append] at cut
      rw [List.cons_append, cut, ih fun d member => blank d (List.mem_cons_of_mem _ member)]
      rfl

theorem tokensAfter_of_hides {nesting : Nesting} {begun text : Text}
    (hidden : nesting.Hides (isBlank · = true) text) (present : begun ≠ [] ∨ text ≠ []) :
    tokensAfter nesting begun text = [begun.reverse ++ text] := by
  induction text generalizing nesting begun with
  | nil =>
      have started : begun ≠ [] := present.resolve_right fun absent => absent rfl
      rw [tokensAfter, if_neg started, List.append_nil]
  | cons c rest ih =>
      obtain ⟨firstHidden, restHidden⟩ := Nesting.hides_cons.mp hidden
      have uncut : ¬ (isBlank c && (nesting.step c).isTop) = true := by
        intro cut
        obtain ⟨blank, atTop⟩ := Bool.and_eq_true_iff.mp cut
        rw [step_of_isBlank blank] at atTop
        exact firstHidden ⟨blank, atTop⟩
      rw [tokensAfter, if_neg uncut, ih restHidden (Or.inl (List.cons_ne_nil c begun)),
        List.reverse_cons, List.append_assoc, List.singleton_append]

/-- **A text that hides its blanks is one token.** -/
theorem tokens_of_hides {text : Text} (hidden : Nesting.Hides {} (isBlank · = true) text)
    (present : text ≠ []) : tokens text = [text] :=
  tokensAfter_of_hides hidden (Or.inr present)

/-- **A text between blanks at the top is a token**, when it hides its own blanks
and leaves nothing open. -/
theorem mem_tokens_of_between_blanks {left token right : Text}
    (leftEnds : ∀ c ∈ left.getLast?, isBlank c = true)
    (leftClosed : Nesting.after {} left = {})
    (hidden : Nesting.Hides {} (isBlank · = true) token) (present : token ≠ [])
    (closed : Nesting.after {} token = {})
    (rightStarts : ∀ c ∈ right.head?, isBlank c = true) :
    token ∈ tokens (left ++ (token ++ right)) := by
  have first : token ∈ tokens (token ++ right) := by
    cases right with
    | nil =>
        rw [List.append_nil, tokens_of_hides hidden present]
        exact List.mem_singleton_self token
    | cons blank rest =>
        rw [tokens_append_blank (rightStarts blank rfl) closed, tokens_of_hides hidden present]
        exact List.mem_append_left _ (List.mem_singleton_self token)
  rcases List.eq_nil_or_concat left with rfl | ⟨front, blank, rfl⟩
  · exact first
  · have isABlank : isBlank blank = true := leftEnds blank (by simp)
    rw [List.concat_eq_append] at leftClosed ⊢
    rw [Nesting.after_append, Nesting.after_cons, Nesting.after_nil, step_of_isBlank isABlank]
      at leftClosed
    rw [List.append_assoc, List.singleton_append, tokens_append_blank isABlank leftClosed]
    exact List.mem_append_right _ first

/-! ## Layouts -/

/-- How a class list is laid out in tokens. A token is not empty and hides its blanks, and
only at the end of the list may it leave something open. -/
inductive LaidOut : Text → List Text → Prop
  | nil : LaidOut [] []
  | blank {b : Char} {rest : Text} {list : List Text} (isABlank : isBlank b = true)
      (behind : LaidOut rest list) : LaidOut (b :: rest) list
  | last {token : Text} (present : token ≠ [])
      (hidden : Nesting.Hides {} (isBlank · = true) token) : LaidOut token [token]
  | token {token : Text} {b : Char} {rest : Text} {list : List Text} (present : token ≠ [])
      (hidden : Nesting.Hides {} (isBlank · = true) token) (closed : Nesting.after {} token = {})
      (isABlank : isBlank b = true) (behind : LaidOut rest list) :
      LaidOut (token ++ b :: rest) (token :: list)

/-- **A class list is laid out in its tokens.** -/
theorem laidOut_tokens (classList : Text) : LaidOut classList (tokens classList) := by
  -- The first blank at the top ends the first token, or nothing does.
  rcases Nesting.hides_or_exists_first {} (isBlank · = true) classList with
    hidden | ⟨front, b, rest, parts, isABlank, hidden, closed⟩
  · by_cases bare : classList = []
    · subst bare
      exact LaidOut.nil
    · rw [tokens_of_hides hidden bare]
      exact LaidOut.last bare hidden
  · have shorter : rest.length < classList.length := by
      rw [parts, List.length_append, List.length_cons]
      omega
    have behind : LaidOut rest (tokens rest) := laidOut_tokens rest
    rw [parts, tokens_append_blank isABlank closed]
    by_cases bare : front = []
    · subst bare
      exact LaidOut.blank isABlank behind
    · rw [tokens_of_hides hidden bare]
      exact LaidOut.token bare hidden closed isABlank behind
termination_by classList.length

/-! ## What a token is -/

/-- What every token of a class list is: a part of it that is not empty and holds
no blank at the top. -/
structure IsTokenOf (classList token : Text) : Prop where
  present : token ≠ []
  within : token <:+: classList
  hidden : Nesting.Hides {} (isBlank · = true) token

theorem IsTokenOf.mono {first second token : Text} (isToken : IsTokenOf first token)
    (part : first <:+: second) : IsTokenOf second token :=
  ⟨isToken.present, isToken.within.trans part, isToken.hidden⟩

theorem LaidOut.isTokenOf {classList token : Text} {list : List Text}
    (laidOut : LaidOut classList list) (among : token ∈ list) : IsTokenOf classList token := by
  induction laidOut with
  | nil => cases among
  | blank _ _ ih => exact (ih among).mono (List.suffix_cons _ _).isInfix
  | last present hidden =>
      rw [List.mem_singleton.mp among]
      exact ⟨present, List.infix_refl _, hidden⟩
  | token present hidden _ _ _ ih =>
      rcases List.mem_cons.mp among with rfl | later
      · exact ⟨present, (List.prefix_append _ _).isInfix, hidden⟩
      · exact (ih later).mono ((List.suffix_cons _ _).trans (List.suffix_append _ _)).isInfix

/-- **Every token is a part of its class list that hides its blanks.** -/
theorem isTokenOf_of_mem {classList token : Text} (among : token ∈ tokens classList) :
    IsTokenOf classList token :=
  (laidOut_tokens classList).isTokenOf among

end StateSheet.Candidate
