import StateSheet.Proofs.Candidate.ClassList
import StateSheet.Proofs.Candidate.Literals

/-!
# Where candidates come from

Whatever a text is, finished or not, its candidates stand in it. A text holds a
quoted body where a quote, the body and the same quote stand one behind another
(`HoldsQuoted`). The values of its attributes and its literals are such bodies
(`holdsQuoted_of_mem_classLists`), and a candidate is a valid token of one of
them (`extraction_invents_nothing`).
-/

set_option autoImplicit false

namespace StateSheet.Candidate

/-- Does a body stand in a text between two quotes of a kind? -/
structure HoldsQuoted (text : Text) (quote : Char) (body : Text) : Prop where
  isAQuote : isQuote quote = true
  quoted : QuotedBody quote body
  stands : ∃ before rest, text = before ++ quote :: (body ++ quote :: rest)

/-- What a text holds it still holds when another text stands in front of it. -/
theorem HoldsQuoted.behind {text : Text} {quote : Char} {body : Text}
    (holds : HoldsQuoted text quote body) (front : Text) :
    HoldsQuoted (front ++ text) quote body := by
  obtain ⟨before, rest, rfl⟩ := holds.stands
  exact ⟨holds.isAQuote, holds.quoted, front ++ before, rest, (List.append_assoc ..).symm⟩

/-- What is read behind a quote is held by the text that starts with it. -/
theorem holdsQuoted_of_readBody? {quote : Char} (isAQuote : isQuote quote = true)
    {text body rest : Text} (found : readBody? quote text = some (body, rest)) :
    HoldsQuoted (quote :: text) quote body := by
  obtain ⟨quoted, rfl⟩ := quotedBody_of_readBody? found
  exact ⟨isAQuote, quoted, [], rest, rfl⟩

/-! ## Values of attributes -/

theorem exists_blanks_trimStart (text : Text) : ∃ blanks, text = blanks ++ text.trimStart :=
  ⟨text.takeWhile isBlank, (List.takeWhile_append_dropWhile ..).symm⟩

theorem holdsQuoted_of_valueBehindName? {text value : Text}
    (found : valueBehindName? text = some value) : ∃ quote, HoldsQuoted text quote value := by
  unfold valueBehindName? at found
  obtain ⟨first, parts⟩ := exists_blanks_trimStart text
  split at found
  · next assigned behindName =>
      obtain ⟨second, assignedParts⟩ := exists_blanks_trimStart assigned
      split at found
      · next quote body behindSign =>
          split at found
          · next isAQuote =>
              obtain ⟨⟨read, rest⟩, readBody, rfl⟩ := Option.map_eq_some_iff.mp found
              have holds := (holdsQuoted_of_readBody? isAQuote readBody).behind second
              rw [← behindSign, ← assignedParts] at holds
              have held := (holds.behind ['=']).behind first
              rw [List.singleton_append, ← behindName, ← parts] at held
              exact ⟨quote, held⟩
          · cases found
      · cases found
  · cases found

theorem holdsQuoted_of_valueAt? {name : Text} {behind : Option Char} {text value : Text}
    (found : valueAt? name behind text = some value) : ∃ quote, HoldsQuoted text quote value := by
  unfold valueAt? at found
  split at found
  · cases found
  · next rest named =>
      rw [Text.dropPrefix?_eq_some_iff.mp named]
      split at found
      · obtain ⟨quote, holds⟩ := holdsQuoted_of_valueBehindName? found
        exact ⟨quote, holds.behind name⟩
      · cases found

theorem holdsQuoted_of_mem_attributeValuesBehind {name : Text} {behind : Option Char}
    {text value : Text} (member : value ∈ attributeValuesBehind name behind text) :
    ∃ quote, HoldsQuoted text quote value := by
  induction text generalizing behind with
  | nil => cases member
  | cons c rest ih =>
      have further : value ∈ attributeValuesBehind name (some c) rest →
          ∃ quote, HoldsQuoted (c :: rest) quote value := by
        intro later
        obtain ⟨quote, holds⟩ := ih later
        exact ⟨quote, holds.behind [c]⟩
      rw [attributeValuesBehind] at member
      split at member
      · next found =>
          rcases List.mem_cons.mp member with rfl | later
          · exact holdsQuoted_of_valueAt? found
          · exact further later
      · exact further member

/-! ## Literals -/

theorem holdsQuoted_of_mem_literals {text body : Text} (member : body ∈ literals text) :
    ∃ quote, HoldsQuoted text quote body := by
  fun_induction literals text with
  | case1 => cases member
  | case2 quote rest isAQuote read after found shorter ih =>
      rcases List.mem_cons.mp member with rfl | later
      · exact ⟨quote, holdsQuoted_of_readBody? isAQuote found⟩
      · obtain ⟨-, rfl⟩ := quotedBody_of_readBody? found
        obtain ⟨inner, holds⟩ := ih later
        have held := ((holds.behind [quote]).behind read).behind [quote]
        exact ⟨inner, held⟩
  | case3 quote rest isAQuote absent ih =>
      obtain ⟨inner, holds⟩ := ih member
      exact ⟨inner, holds.behind [quote]⟩
  | case4 c rest notQuote ih =>
      obtain ⟨inner, holds⟩ := ih member
      exact ⟨inner, holds.behind [c]⟩

/-! ## Candidates -/

/-- **Every class list of a text stands in it between two like quotes.** -/
theorem holdsQuoted_of_mem_classLists {text classList : Text}
    (member : classList ∈ classLists text) : ∃ quote, HoldsQuoted text quote classList := by
  rcases List.mem_append.mp member with assigned | literal
  · obtain ⟨name, -, valued⟩ := List.mem_flatMap.mp assigned
    exact holdsQuoted_of_mem_attributeValuesBehind valued
  · exact holdsQuoted_of_mem_literals literal

/-- **Extraction invents nothing.** No class is extracted twice from a text, and
each stands in it within a quoted body, one of whose valid tokens it is. -/
theorem extraction_invents_nothing (text : Text) :
    (extract text).Nodup ∧
    ∀ className ∈ extract text, ∃ quote ∈ ['"', '\'', '`'], ∃ before body rest,
      text = before ++ quote :: (body ++ quote :: rest) ∧ QuotedBody quote body ∧
        className <:+: body ∧ className ∈ tokens body ∧ isValid className = true := by
  refine ⟨nodup_distinct _, fun className extracted => ?_⟩
  obtain ⟨body, listed, among, valid⟩ := mem_extract_iff.mp extracted
  obtain ⟨quote, holds⟩ := holdsQuoted_of_mem_classLists listed
  obtain ⟨before, rest, written⟩ := holds.stands
  refine ⟨quote, ?_, before, body, rest, written, holds.quoted, (isTokenOf_of_mem among).within,
    among, valid⟩
  simpa using isQuote_iff.mp holds.isAQuote

/-- A class with an escaped quote, between a value that the end of its line breaks
off and a quote that is never closed. -/
theorem extraction_invents_nothing_in_unfinished_markup :
    "ui-open:w-[\\\"]".toList ∈
        extract "<p class='p-2\n class=\"x ui-open:w-[\\\"]\" id='m-1".toList ∧
    ∃ quote ∈ ['"', '\'', '`'], ∃ before body rest,
      "<p class='p-2\n class=\"x ui-open:w-[\\\"]\" id='m-1".toList =
          before ++ quote :: (body ++ quote :: rest) ∧
        QuotedBody quote body ∧ "ui-open:w-[\\\"]".toList <:+: body ∧
        "ui-open:w-[\\\"]".toList ∈ tokens body ∧ isValid "ui-open:w-[\\\"]".toList = true := by
  have extracted : "ui-open:w-[\\\"]".toList ∈
      extract "<p class='p-2\n class=\"x ui-open:w-[\\\"]\" id='m-1".toList :=
    mem_extract_iff.mpr ⟨"x ui-open:w-[\\\"]".toList, List.mem_append_left _ (by decide),
      by decide, by decide⟩
  exact ⟨extracted, (extraction_invents_nothing _).2 _ extracted⟩

end StateSheet.Candidate
