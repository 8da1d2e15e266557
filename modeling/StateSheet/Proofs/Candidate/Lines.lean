import StateSheet.Proofs.Candidate.Literals

/-!
# Line ends between string literals

A body in single or double quotes goes on over the end of a line only behind a
backslash (`QuotedBody.escapes_line`). So a quote that is still open where its line
ends closes no body at all, however many quotes follow on later lines
(`Unclosed.at_line_end`), and the pass over the literals is back in step behind
every line end that no backslash takes along (`literals_meet_at_line_end`).

Backticks are left out, since a body between them runs over lines.
-/

set_option autoImplicit false

namespace StateSheet.Candidate

/-- **Only a backslash takes a line end into a body** in single or double quotes. -/
theorem QuotedBody.escapes_line {quote : Char} (oneLine : quote ≠ '`') {front rest body : Text}
    (quoted : QuotedBody quote body) (parts : body = front ++ '\n' :: rest) :
    front.getLast? = some '\\' := by
  induction quoted generalizing front with
  | nil => simp at parts
  | plain _ _ keepsLine _ ih =>
      cases front with
      | nil => exact absurd (keepsLine (List.cons.inj parts).1) oneLine
      | cons c more =>
          rw [List.getLast?_cons, ih (List.cons.inj parts).2]
          rfl
  | escaped _ ih =>
      -- The escaped character is the line end itself, or stands in front of it.
      match front, parts with
      | [_], parts => rw [← (List.cons.inj parts).1]; rfl
      | _ :: _ :: more, parts =>
          have behind := ih (List.cons.inj (List.cons.inj parts).2).2
          rw [List.getLast?_cons, List.getLast?_cons, behind]
          rfl

/-- **A quote that its line leaves open closes no body**, whatever the next lines
hold. -/
theorem Unclosed.at_line_end {quote : Char} {line : Text} (unclosed : Unclosed quote line)
    (isAQuote : isQuote quote = true) (oneLine : quote ≠ '`')
    (unescaped : line.getLast? ≠ some '\\') (below : Text) :
    Unclosed quote (line ++ '\n' :: below) := by
  intro body rest quoted same
  have notLineEnd : '\n' ≠ quote := by
    rintro rfl
    cases isAQuote
  rcases List.append_eq_append_iff.mp same with
    ⟨more, bodyParts, onwards⟩ | ⟨more, lineParts, onwards⟩
  · cases more with
    | nil => exact notLineEnd (List.cons.inj onwards).1
    | cons c others =>
        obtain ⟨rfl, -⟩ := List.cons.inj onwards
        exact unescaped (quoted.escapes_line oneLine bodyParts)
  · cases more with
    | nil => exact notLineEnd (List.cons.inj onwards).1.symm
    | cons c others =>
        obtain ⟨rfl, -⟩ := List.cons.inj onwards
        exact unclosed body others quoted lineParts

/-- A text that the end of its line closes off: no backtick in it opens a body that
could run on, and no backslash at its end takes the line end along. -/
structure ClosesAtLineEnd (text : Text) : Prop where
  noBacktick : '`' ∉ text
  unescaped : text.getLast? ≠ some '\\'

/-- What such a text ends in is closed off as well. -/
theorem ClosesAtLineEnd.of_append (front : Text) {rest : Text}
    (closes : ClosesAtLineEnd (front ++ rest)) : ClosesAtLineEnd rest := by
  refine ⟨fun member => closes.noBacktick (List.mem_append_right _ member), fun last => ?_⟩
  apply closes.unescaped
  rw [List.getLast?_append, last]
  rfl

/-- **A stray quote is over at the end of its line.** The literals of two texts with
a line end between them are those of the first and those of the second, when the
first has no backtick and does not end in a backslash, whatever the second is. -/
theorem literals_meet_at_line_end {first : Text} (closes : ClosesAtLineEnd first)
    (second : Text) :
    literals (first ++ '\n' :: second) = literals first ++ literals second := by
  fun_induction literals first with
  | case1 => exact literals_of_not_quote (by decide) second
  | case2 quote rest isAQuote body after found _ ih =>
      obtain ⟨quoted, rfl⟩ := quotedBody_of_readBody? found
      have behind : ClosesAtLineEnd after := by
        apply ClosesAtLineEnd.of_append (quote :: (body ++ [quote]))
        simpa using closes
      rw [List.cons_append, List.append_assoc, List.cons_append,
        literals_of_body isAQuote quoted, ih behind, List.cons_append]
  | case3 quote rest isAQuote absent ih =>
      have behind : ClosesAtLineEnd rest := closes.of_append [quote]
      have oneLine : quote ≠ '`' := fun same => closes.noBacktick (same ▸ List.mem_cons_self)
      have unclosed : Unclosed quote (rest ++ '\n' :: second) :=
        ((readBody?_eq_none_iff isAQuote).mp absent).at_line_end isAQuote oneLine
          behind.unescaped second
      rw [List.cons_append, literals_of_unclosed isAQuote unclosed, ih behind]
  | case4 c rest notQuote ih =>
      have behind : ClosesAtLineEnd rest := closes.of_append [c]
      rw [List.cons_append, literals_of_not_quote (Bool.not_eq_true _ ▸ notQuote), ih behind]

/-- A line with a literal, a double quote and an apostrophe that close nowhere, and an
escaped quote at its end, above a body in backticks that holds a line end and quotes of
another kind. -/
theorem literals_meet_behind_stray_quotes :
    ClosesAtLineEnd "cn(\"p-2\") say \"don't \\\"".toList ∧
    literals "cn(\"p-2\") say \"don't \\\"\n`x\n'y'` \"z'".toList =
      ["p-2".toList, "x\n'y'".toList] := by
  have closes : ClosesAtLineEnd "cn(\"p-2\") say \"don't \\\"".toList := ⟨by decide, by decide⟩
  have above : literals "cn(\"p-2\") say \"don't \\\"".toList = ["p-2".toList] := by cbv
  have below : literals "`x\n'y'` \"z'".toList = ["x\n'y'".toList] := by cbv
  have meet := literals_meet_at_line_end closes "`x\n'y'` \"z'".toList
  rw [above, below] at meet
  exact ⟨closes, meet⟩

end StateSheet.Candidate
