import StateSheet.Proofs.Candidate.Brackets
import StateSheet.Proofs.Candidate.Provenance

/-!
# Class lists that are written out

Classes are written into an attribute with blanks around them
(`SpacedList.written`). The tokens of what is written are the classes
(`SpacedList.tokens_written`). The element that holds the attribute has no quotes
but those of its value, so the value is all that can be extracted from it, by
either pass (`eq_of_mem_classLists`).

Extraction gives the classes back, in order and once each, when they are laid out
on one line. A line end breaks a value in double quotes off, and then nothing is
extracted (`extraction_undoes_writing`).
-/

set_option autoImplicit false

namespace StateSheet.Candidate

/-! ## Texts with one quoted body -/

theorem not_isQuote_of_isBlank {c : Char} (blank : isBlank c = true) : isQuote c = false := by
  rw [← Bool.not_eq_true]
  intro quote
  rcases isQuote_iff.mp quote with rfl | rfl | rfl <;> cases blank

/-- Two cuts of a text at its first quote are the same cut. -/
theorem cut_at_quote_unique {first second rest behind : Text} {quote other : Char}
    (firstPlain : QuoteFree first) (isAQuote : isQuote quote = true)
    (secondPlain : QuoteFree second) (isAnother : isQuote other = true)
    (same : first ++ quote :: rest = second ++ other :: behind) :
    first = second ∧ quote = other ∧ rest = behind := by
  have dropped : ∀ {before after : Text} {c : Char}, QuoteFree before → isQuote c = true →
      (before ++ c :: after).dropWhile (!isQuote ·) = c :: after := by
    intro before after c plain isAQuote
    rw [List.dropWhile_append_of_pos fun d member => by rw [plain d member]; rfl]
    simp [isAQuote]
  have onwards := congrArg (List.dropWhile (!isQuote ·)) same
  rw [dropped firstPlain isAQuote, dropped secondPlain isAnother] at onwards
  obtain ⟨rfl, rfl⟩ := List.cons.inj onwards
  exact ⟨List.append_cancel_right same, rfl, rfl⟩

/-- A text with two quotes holds one quoted body. -/
theorem HoldsQuoted.unique {before body rest : Text} {quote : Char}
    (isAQuote : isQuote quote = true) (beforePlain : QuoteFree before)
    (bodyPlain : QuoteFree body) (restPlain : QuoteFree rest)
    {other : Char} {value : Text}
    (holds : HoldsQuoted (before ++ quote :: (body ++ quote :: rest)) other value) :
    other = quote ∧ value = body := by
  have plain_iff : ∀ {text : Text}, text.countP isQuote = 0 ↔ QuoteFree text := by
    intro text
    simp [List.countP_eq_zero, QuoteFree]
  obtain ⟨front, behind, parts⟩ := holds.stands
  have counts := congrArg (List.countP isQuote) parts
  simp only [List.countP_append, List.countP_cons, isAQuote, holds.isAQuote, if_true,
    plain_iff.mpr beforePlain, plain_iff.mpr bodyPlain, plain_iff.mpr restPlain] at counts
  have frontPlain : QuoteFree front := plain_iff.mp (by omega)
  have valuePlain : QuoteFree value := plain_iff.mp (by omega)
  obtain ⟨-, rfl, onwards⟩ :=
    cut_at_quote_unique beforePlain isAQuote frontPlain holds.isAQuote parts
  obtain ⟨rfl, -, -⟩ := cut_at_quote_unique bodyPlain isAQuote valuePlain isAQuote onwards
  exact ⟨rfl, rfl⟩

/-- A body in double quotes without a backslash keeps to its line. -/
theorem QuotedBody.newline_not_mem {quote : Char} {body : Text} (quoted : QuotedBody quote body)
    (single : quote ≠ '`') (unescaped : '\\' ∉ body) : '\n' ∉ body := by
  induction quoted with
  | nil => exact List.not_mem_nil
  | plain _ _ keepsLine _ ih =>
      rw [List.mem_cons, not_or] at unescaped ⊢
      exact ⟨fun line => single (keepsLine line.symm), ih unescaped.2⟩
  | escaped => exact absurd List.mem_cons_self unescaped

/-! ## Spaced class lists -/

/-- Classes with blanks between them: the blanks in front, and every class with
the blanks behind it. -/
structure SpacedList where
  lead : Text
  entries : List (Text × Text)

/-- Can a class be written between double quotes as it is, and be read back as one
token? -/
structure IsWritable (className : Text) : Prop where
  valid : isValid className = true
  plain : ∀ c ∈ className, isBlank c = false ∧ isQuote c = false ∧ c ≠ '\\'
  bracketed : Bracketed likePairs className

theorem isWritable_iff {className : Text} :
    IsWritable className ↔ isValid className = true ∧
      className.all (fun c => !isBlank c && !isQuote c && c != '\\') = true ∧
      closesInKindFrom [] className = true := by
  have plain_iff : className.all (fun c => !isBlank c && !isQuote c && c != '\\') = true ↔
      ∀ c ∈ className, isBlank c = false ∧ isQuote c = false ∧ c ≠ '\\' := by
    simp [List.all_eq_true, and_assoc]
  rw [plain_iff]
  constructor
  · intro writable
    have read := writable.bracketed.closesInKindFrom_append [] []
    rw [List.append_nil] at read
    exact ⟨writable.valid, writable.plain, read⟩
  · rintro ⟨valid, plain, inKind⟩
    have bracketed := bracketed_of_isBalancedFrom (isBalancedFrom_of_isValid valid)
    exact ⟨valid, plain, bracketed.of_closesInKind (.of_closesInKindFrom inKind)⟩

instance (className : Text) : Decidable (IsWritable className) :=
  decidable_of_iff _ isWritable_iff.symm

namespace SpacedList

/-- The classes of a list, in order. -/
def classes (list : SpacedList) : List Text := list.entries.map Prod.fst

/-- The text of a list. -/
def written (list : SpacedList) : Text :=
  list.lead ++ list.entries.flatMap fun entry => entry.1 ++ entry.2

/-- The element whose class attribute is given a list. -/
def element (list : SpacedList) : Text := "<div class=\"".toList ++ list.written ++ "\">".toList

/-- Does a list have nothing but blanks around its classes, and some between any
two of them? -/
structure IsSpaced (list : SpacedList) : Prop where
  lead : ∀ c ∈ list.lead, isBlank c = true
  gaps : ∀ entry ∈ list.entries, ∀ c ∈ entry.2, isBlank c = true
  apart : ∀ entry ∈ list.entries.dropLast, entry.2 ≠ []

variable {list : SpacedList}

theorem isSpaced_iff : list.IsSpaced ↔ list.lead.all isBlank = true ∧
    list.entries.all (fun entry => entry.2.all isBlank) = true ∧
    list.entries.dropLast.all (fun entry => !entry.2.isEmpty) = true := by
  simp only [List.all_eq_true, Bool.not_eq_true', List.isEmpty_eq_false_iff]
  exact ⟨fun spaced => ⟨spaced.lead, spaced.gaps, spaced.apart⟩,
    fun ⟨lead, gaps, apart⟩ => ⟨lead, gaps, apart⟩⟩

instance (list : SpacedList) : Decidable list.IsSpaced := decidable_of_iff _ isSpaced_iff.symm

theorem tokens_of_isWritable {className : Text} (writable : IsWritable className) :
    tokens className = [className] := by
  have present : className ≠ [] := by
    rintro rfl
    cases writable.valid
  refine tokens_of_hides (Nesting.hides_of_forall_not fun c member blank => ?_) present
  rw [(writable.plain c member).1] at blank
  cases blank

theorem tokens_entries {entries : List (Text × Text)}
    (writable : ∀ entry ∈ entries, IsWritable entry.1)
    (gaps : ∀ entry ∈ entries, ∀ c ∈ entry.2, isBlank c = true)
    (apart : ∀ entry ∈ entries.dropLast, entry.2 ≠ []) :
    tokens (entries.flatMap fun entry => entry.1 ++ entry.2) = entries.map Prod.fst := by
  induction entries with
  | nil => rfl
  | cons entry more ih =>
      obtain ⟨className, gap⟩ := entry
      obtain ⟨own, others⟩ := List.forall_mem_cons.mp writable
      obtain ⟨gapBlank, otherGaps⟩ := List.forall_mem_cons.mp gaps
      have behind := ih others otherGaps fun other member => apart other (by
        cases more with
        | nil => cases member
        | cons next rest => exact List.mem_cons_of_mem _ member)
      rw [List.flatMap_cons, List.map_cons]
      cases gap with
      | nil =>
          -- Only the last class may stand without a blank behind it.
          cases more with
          | nil => simpa using tokens_of_isWritable own
          | cons next rest => exact absurd rfl (apart (className, []) List.mem_cons_self)
      | cons blank gap =>
          obtain ⟨isABlank, gapRest⟩ := List.forall_mem_cons.mp gapBlank
          rw [List.append_assoc, List.cons_append,
            tokens_append_blank isABlank (own.bracketed.after {}), tokens_of_isWritable own,
            tokens_blanks_append gapRest, behind]
          rfl

/-- **The tokens of a list are its classes.** -/
theorem tokens_written (spaced : list.IsSpaced)
    (writable : ∀ className ∈ list.classes, IsWritable className) :
    tokens list.written = list.classes := by
  rw [written, tokens_blanks_append spaced.lead]
  exact tokens_entries (fun entry member => writable _ (List.mem_map_of_mem member)) spaced.gaps
    spaced.apart

/-- What holds of blanks and of the characters of its classes holds of every
character of a list. -/
theorem forall_mem_written (spaced : list.IsSpaced) {kind : Char → Prop}
    (ofBlank : ∀ c, isBlank c = true → kind c)
    (ofClass : ∀ className ∈ list.classes, ∀ c ∈ className, kind c) :
    ∀ c ∈ list.written, kind c := by
  intro c member
  rcases List.mem_append.mp member with inLead | inEntries
  · exact ofBlank c (spaced.lead c inLead)
  · obtain ⟨entry, listed, inEntry⟩ := List.mem_flatMap.mp inEntries
    rcases List.mem_append.mp inEntry with inClass | inGap
    · exact ofClass entry.1 (List.mem_map_of_mem listed) c inClass
    · exact ofBlank c (spaced.gaps entry listed c inGap)

theorem quoteFree_written (spaced : list.IsSpaced)
    (writable : ∀ className ∈ list.classes, IsWritable className) : QuoteFree list.written :=
  forall_mem_written spaced (fun _ blank => not_isQuote_of_isBlank blank)
    fun className listed c member => ((writable className listed).plain c member).2.1

theorem backslash_not_mem_written (spaced : list.IsSpaced)
    (writable : ∀ className ∈ list.classes, IsWritable className) : '\\' ∉ list.written := by
  have unescaped : ∀ c ∈ list.written, c ≠ '\\' := by
    refine forall_mem_written spaced ?_ fun className listed c member =>
      ((writable className listed).plain c member).2.2
    rintro c blank rfl
    cases blank
  exact fun escape => unescaped _ escape rfl

theorem element_eq (list : SpacedList) :
    list.element = "<div class=".toList ++ '"' :: (list.written ++ '"' :: ['>']) := by
  have opening : "<div class=\"".toList = "<div class=".toList ++ ['"'] := by decide
  have closing : "\">".toList = ['"', '>'] := by decide
  unfold element
  rw [opening, closing, List.append_assoc, List.append_assoc, List.singleton_append]

/-- Whatever class list an element gives is the value of its attribute. -/
theorem eq_of_mem_classLists (spaced : list.IsSpaced)
    (writable : ∀ className ∈ list.classes, IsWritable className) {value : Text}
    (member : value ∈ classLists list.element) : QuotedBody '"' value ∧ value = list.written := by
  obtain ⟨quote, holds⟩ := holdsQuoted_of_mem_classLists member
  rw [element_eq] at holds
  obtain ⟨rfl, same⟩ := holds.unique rfl (by decide) (quoteFree_written spaced writable)
    (by decide)
  exact ⟨holds.quoted, same⟩

/-- A list on one line is a class list of its element. -/
theorem written_mem_classLists (spaced : list.IsSpaced)
    (writable : ∀ className ∈ list.classes, IsWritable className) (oneLine : '\n' ∉ list.written) :
    list.written ∈ classLists list.element := by
  have quoted : QuotedBody '"' list.written := .of_forall fun c member =>
    ⟨ne_of_mem_of_not_mem member (backslash_not_mem_written spaced writable),
      ne_of_apply_ne isQuote (by
        rw [quoteFree_written spaced writable c member]
        decide),
      ne_of_mem_of_not_mem member oneLine⟩
  have noBlanks : ∀ c ∈ ([] : Text), isBlank c = true := by simp
  have named : "<div class=".toList = "<div ".toList ++ ("class".toList ++ ['=']) := by decide
  have known : "class".toList ∈ attributeNames := by decide
  have opened : opensAttribute "<div ".toList.getLast? = true := by decide
  rw [element_eq, named, List.append_assoc, List.append_assoc]
  exact mem_classLists_of_assigned known opened noBlanks noBlanks rfl quoted ['>']

/-- A list on one line is extracted from its element, class by class. -/
theorem extract_element (spaced : list.IsSpaced) (distinctClasses : list.classes.Nodup)
    (writable : ∀ className ∈ list.classes, IsWritable className) (oneLine : '\n' ∉ list.written) :
    extract list.element = list.classes := by
  have read := tokens_written spaced writable
  have same : ∀ value ∈ classLists list.element, value = list.written := fun value member =>
    (eq_of_mem_classLists spaced writable member).2
  have given := written_mem_classLists spaced writable oneLine
  have allValid : list.classes.filter isValid = list.classes :=
    List.filter_eq_self.mpr fun className listed => (writable className listed).valid
  unfold extract
  -- The first class list gives the classes, and all the others repeat it.
  cases lists : classLists list.element with
  | nil =>
      rw [lists] at given
      cases given
  | cons first others =>
      rw [lists, List.forall_mem_cons] at same
      obtain ⟨rfl, sameBehind⟩ := same
      rw [List.flatMap_cons, List.filter_append, read, allValid]
      refine distinct_append_of_subset distinctClasses fun className repeated => ?_
      obtain ⟨value, listed, among⟩ := List.mem_flatMap.mp (List.mem_filter.mp repeated).1
      rwa [sameBehind value listed, read] at among

/-- From a list over several lines nothing is extracted. -/
theorem extract_element_of_newline (spaced : list.IsSpaced)
    (writable : ∀ className ∈ list.classes, IsWritable className) (broken : '\n' ∈ list.written) :
    extract list.element = [] := by
  refine List.eq_nil_iff_forall_not_mem.mpr fun className extracted => ?_
  obtain ⟨value, listed, -⟩ := mem_extract_iff.mp extracted
  obtain ⟨quoted, rfl⟩ := eq_of_mem_classLists spaced writable listed
  exact quoted.newline_not_mem (by decide) (backslash_not_mem_written spaced writable) broken

end SpacedList

/-- **Extraction undoes writing.** Different classes that can be written are laid
out with blanks in a class attribute. When no blank is a line end, exactly these
classes are extracted from the element, in their order. When one is, it breaks the
value off and nothing is extracted. -/
theorem extraction_undoes_writing {list : SpacedList} (spaced : list.IsSpaced)
    (distinctClasses : list.classes.Nodup)
    (writable : ∀ className ∈ list.classes, IsWritable className) :
    ('\n' ∉ list.written → extract list.element = list.classes) ∧
    ('\n' ∈ list.written → extract list.element = []) :=
  ⟨SpacedList.extract_element spaced distinctClasses writable,
    SpacedList.extract_element_of_newline spaced writable⟩

/-- Classes that look like attributes, with a tab, a carriage return and a wide
blank around them. -/
theorem extraction_undoes_writing_of_attribute_names :
    let list : SpacedList :=
      { lead := ['\t']
        entries := [(":class".toList, "\r ".toList), ("ui-open:w-[f(x)=1]".toList, ['\u3000']),
          ("class".toList, [])] }
    list.IsSpaced ∧ list.classes.Nodup ∧ (∀ className ∈ list.classes, IsWritable className) ∧
    '\n' ∉ list.written ∧
    extract "<div class=\"\t:class\r ui-open:w-[f(x)=1]\u3000class\">".toList =
      [":class".toList, "ui-open:w-[f(x)=1]".toList, "class".toList] := by
  intro list
  have spaced : list.IsSpaced := by decide
  have writable : ∀ className ∈ list.classes, IsWritable className := by decide
  have oneLine : '\n' ∉ list.written := by decide
  have distinctClasses : list.classes.Nodup := by decide
  exact ⟨spaced, distinctClasses, writable, oneLine,
    (extraction_undoes_writing spaced distinctClasses writable).1 oneLine⟩

/-- **A line end between two classes loses both.** The value of the attribute ends
at no quote, and neither do the literals of the element. -/
theorem line_end_breaks_value_off :
    let list : SpacedList := { lead := [], entries := [("a".toList, ['\n']), ("b".toList, [])] }
    list.IsSpaced ∧ list.classes.Nodup ∧ (∀ className ∈ list.classes, IsWritable className) ∧
    list.element = "<div class=\"a\nb\">".toList ∧
    extract "<div class=\"a\nb\">".toList ≠ list.classes := by
  intro list
  have spaced : list.IsSpaced := by decide
  have writable : ∀ className ∈ list.classes, IsWritable className := by decide
  have element : list.element = "<div class=\"a\nb\">".toList := by decide
  refine ⟨spaced, by decide, writable, element, ?_⟩
  rw [← element, SpacedList.extract_element_of_newline spaced writable (by decide)]
  exact (List.cons_ne_nil _ _).symm

end StateSheet.Candidate
