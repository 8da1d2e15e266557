import StateSheet.Candidate.Extraction

/-!
# Attributes are found wherever they stand

A quoted body is a run of items: a character that neither closes the body nor
breaks it off, or a backslash with the character it takes along
(`QuotedBody`). Such a body is read back whole in front of its closing quote,
whatever follows (`readBody?_append`).

An attribute name that stands by itself, with its equals sign and a quoted body
behind it, gives that body as a value (`valueAt?_of_assigned`), and a text gives
the values of all its places, whatever surrounds them
(`mem_attributeValuesBehind`). The value is then one of the class lists of the text,
whose valid tokens are its candidates (`mem_extract_iff`).
-/

set_option autoImplicit false

namespace StateSheet.Candidate

/-! ## Quoted bodies -/

/-- What can stand between two quotes of a kind. -/
inductive QuotedBody (quote : Char) : Text → Prop where
  | nil : QuotedBody quote []
  | plain {c : Char} {rest : Text} (notEscape : c ≠ '\\') (notQuote : c ≠ quote)
      (keepsLine : c = '\n' → quote = '`') :
      QuotedBody quote rest → QuotedBody quote (c :: rest)
  | escaped {c : Char} {rest : Text} :
      QuotedBody quote rest → QuotedBody quote ('\\' :: c :: rest)

theorem QuotedBody.of_forall {quote : Char} {body : Text}
    (plain : ∀ c ∈ body, c ≠ '\\' ∧ c ≠ quote ∧ c ≠ '\n') : QuotedBody quote body := by
  induction body with
  | nil => exact .nil
  | cons c rest ih =>
      obtain ⟨notEscape, notQuote, notLine⟩ := plain c List.mem_cons_self
      exact .plain notEscape notQuote (fun line => absurd line notLine)
        (ih fun d member => plain d (List.mem_cons_of_mem _ member))

/-- A body is read up to its closing quote, whatever follows. -/
theorem readBodyAfter_append {quote : Char} {body : Text} (quoted : QuotedBody quote body)
    (notEscape : quote ≠ '\\') (begun rest : Text) :
    readBodyAfter quote begun (body ++ quote :: rest) = some (begun.reverse ++ body, rest) := by
  induction quoted generalizing begun with
  | nil => simp [readBodyAfter, notEscape]
  | @plain c more plainChar notQuote keepsLine _ ih =>
      have unbroken : ¬ (c = '\n' ∧ quote ≠ '`') := fun broken => broken.2 (keepsLine broken.1)
      rw [List.cons_append, readBodyAfter, if_neg notQuote, if_neg unbroken, ih]
      · simp
      · exact fun escape _ => plainChar escape
      · exact fun _ _ escape _ => plainChar escape
  | escaped _ ih =>
      rw [List.cons_append, List.cons_append, readBodyAfter, ih]
      simp

theorem readBody?_append {quote : Char} {body : Text} (quoted : QuotedBody quote body)
    (notEscape : quote ≠ '\\') (rest : Text) :
    readBody? quote (body ++ quote :: rest) = some (body, rest) :=
  readBodyAfter_append quoted notEscape [] rest

/-! ## The value of an attribute -/

theorem isQuote_iff {c : Char} : isQuote c = true ↔ c = '"' ∨ c = '\'' ∨ c = '`' := by
  simp [isQuote, or_assoc]

theorem ne_backslash_of_isQuote {quote : Char} (isAQuote : isQuote quote = true) :
    quote ≠ '\\' := by
  rintro rfl
  cases isAQuote

theorem trimStart_append_cons {blanks : Text} (blank : ∀ c ∈ blanks, isBlank c = true) {c : Char}
    (visible : isBlank c = false) (rest : Text) :
    Text.trimStart (blanks ++ c :: rest) = c :: rest := by
  rw [Text.trimStart, List.dropWhile_append_of_pos blank, List.dropWhile_cons, visible]
  rfl

/-- **A quoted body that is assigned to a name is its value.** -/
theorem valueBehindName?_of_assigned {first second : Text}
    (firstBlank : ∀ c ∈ first, isBlank c = true) (secondBlank : ∀ c ∈ second, isBlank c = true)
    {quote : Char} (isAQuote : isQuote quote = true) {body : Text}
    (quoted : QuotedBody quote body) (rest : Text) :
    valueBehindName? (first ++ '=' :: (second ++ quote :: (body ++ quote :: rest))) =
      some body := by
  have visible : isBlank quote = false := by
    rcases isQuote_iff.mp isAQuote with rfl | rfl | rfl <;> decide
  unfold valueBehindName?
  rw [trimStart_append_cons firstBlank (by decide)]
  simp only [trimStart_append_cons secondBlank visible, isAQuote, if_true,
    readBody?_append quoted (ne_backslash_of_isQuote isAQuote), Option.map_some]

theorem closesAttribute_blanks {blanks : Text} (blank : ∀ c ∈ blanks, isBlank c = true)
    (rest : Text) : closesAttribute (blanks ++ '=' :: rest) = true := by
  cases blanks with
  | nil => rfl
  | cons c more =>
      simp only [List.cons_append, closesAttribute, blank c List.mem_cons_self, Bool.true_or]

/-- **A name that stands by itself is given the body assigned to it.** -/
theorem valueAt?_of_assigned {behind : Option Char} (opened : opensAttribute behind = true)
    (name : Text) {first second : Text} (firstBlank : ∀ c ∈ first, isBlank c = true)
    (secondBlank : ∀ c ∈ second, isBlank c = true) {quote : Char}
    (isAQuote : isQuote quote = true) {body : Text} (quoted : QuotedBody quote body)
    (rest : Text) :
    valueAt? name behind
        (name ++ (first ++ '=' :: (second ++ quote :: (body ++ quote :: rest)))) = some body := by
  unfold valueAt?
  simp only [Text.dropPrefix?_append, opened, closesAttribute_blanks firstBlank, Bool.and_self,
    if_true, valueBehindName?_of_assigned firstBlank secondBlank isAQuote quoted]

/-! ## All places of a text -/

/-- **The values of a text are those of all its places**, whatever stands in
front of them. -/
theorem mem_attributeValuesBehind {name value text : Text} (before : Text) {behind : Option Char}
    (present : text ≠ [])
    (found : valueAt? name (before.getLast?.or behind) text = some value) :
    value ∈ attributeValuesBehind name behind (before ++ text) := by
  induction before generalizing behind with
  | nil =>
      cases text with
      | nil => exact absurd rfl present
      | cons c rest =>
          simp only [List.getLast?_nil, Option.none_or] at found
          rw [List.nil_append, attributeValuesBehind, found]
          exact List.mem_cons_self
  | cons c more ih =>
      have last : more.getLast?.or (some c) = (c :: more).getLast?.or behind := by
        rw [List.getLast?_cons]
        cases more.getLast? <;> rfl
      have later : value ∈ attributeValuesBehind name (some c) (more ++ text) := by
        apply ih
        rw [last]
        exact found
      rw [List.cons_append, attributeValuesBehind]
      split
      · exact List.mem_cons_of_mem _ later
      · exact later

/-- **A body that is assigned to an attribute is a class list of the text**,
whatever stands around it. -/
theorem mem_classLists_of_assigned {name before : Text} (known : name ∈ attributeNames)
    (opened : opensAttribute before.getLast? = true) {first second : Text}
    (firstBlank : ∀ c ∈ first, isBlank c = true) (secondBlank : ∀ c ∈ second, isBlank c = true)
    {quote : Char} (isAQuote : isQuote quote = true) {body : Text}
    (quoted : QuotedBody quote body) (rest : Text) :
    body ∈ classLists (before ++
      (name ++ (first ++ '=' :: (second ++ quote :: (body ++ quote :: rest))))) := by
  have named : name ≠ [] := by
    rintro rfl
    revert known
    decide
  refine List.mem_append_left _ (List.mem_flatMap.mpr ⟨name, known, ?_⟩)
  refine mem_attributeValuesBehind before (by simp [named]) ?_
  rw [Option.or_none]
  exact valueAt?_of_assigned opened name firstBlank secondBlank isAQuote quoted rest

/-- The candidates of a text are the valid tokens of its class lists. -/
theorem mem_extract_iff {text token : Text} :
    token ∈ extract text ↔
      ∃ classList ∈ classLists text, token ∈ tokens classList ∧ isValid token = true := by
  rw [extract, mem_distinct_iff, List.mem_filter, List.mem_flatMap]
  constructor
  · rintro ⟨⟨classList, member, among⟩, valid⟩
    exact ⟨classList, member, among, valid⟩
  · rintro ⟨classList, member, among, valid⟩
    exact ⟨⟨classList, member, among⟩, valid⟩

end StateSheet.Candidate
