import StateSheet.Proofs.Candidate.Attribute
import StateSheet.Proofs.Candidate.ClassList
import StateSheet.Proofs.Stylesheet.PlainClass
import StateSheet.Proofs.Text.Joined

/-!
# From an attribute to the stylesheet

A class in plain words that an author writes into an attribute is extracted from
the text around it (`PlainClass.mem_extract`) and has its rule in the stylesheet
of the text (`plain_class_reaches_stylesheet`). Nothing around the attribute can
hide it: the class is a token of the value of the attribute, and what a
stylesheet holds for one class does not depend on the others
(`Generation.rule_infix_css`).
-/

set_option autoImplicit false

namespace StateSheet

/-- The text generated from a class list contains the rules of its classes. -/
theorem Generation.rule_infix_css {settings : Settings} {classes : List Text} {className : Text}
    {rule : Rule} (listed : className ∈ classes) (own : rule.IsOf settings.utility? className) :
    (Layout.ofMinify settings.minify).rule rule <:+: (ofClasses settings classes).css := by
  rw [← settings.get?_extended] at own
  have entered := Stylesheet.mem_rules_iff.mpr ⟨listed, own⟩
  simp only [ofClasses, Stylesheet.render, SortedTable.values, List.map_map]
  exact Text.infix_intercalate_of_mem (List.mem_map.mpr ⟨(className, rule), entered, rfl⟩)

/-- Can an author put a text beside a class, within quotes of a kind, and leave
the quotes and the nesting of the class list as they are? -/
def StandsBeside (quote : Char) (beside : Text) : Prop :=
  ∀ c ∈ beside, c ≠ quote ∧ c ≠ '\\' ∧ c ≠ '\n' ∧ c ∉ ['[', ']', '(', ')']

namespace StandsBeside

variable {quote : Char} {beside : Text}

instance : Decidable (StandsBeside quote beside) := List.decidableBAll _ beside

theorem char (stands : StandsBeside quote beside) :
    ∀ c ∈ beside, c ≠ '\\' ∧ c ≠ quote ∧ c ≠ '\n' := by
  intro c member
  obtain ⟨notQuote, notEscape, notLine, _⟩ := stands c member
  exact ⟨notEscape, notQuote, notLine⟩

theorem after (stands : StandsBeside quote beside) : Nesting.after {} beside = {} := by
  refine Nesting.after_of_plain fun c member => ?_
  have notBracket := (stands c member).2.2.2
  simp only [List.mem_cons, List.not_mem_nil, or_false, not_or] at notBracket
  obtain ⟨notOpen, notClose, notOpenRound, notCloseRound⟩ := notBracket
  simp [Nesting.isBracket, notOpen, notClose, notOpenRound, notCloseRound]

end StandsBeside

theorem PlainClass.quotedBody {family : Family} {state utility left right : Text}
    (plain : PlainClass family state utility) {quote : Char}
    (isAQuote : Candidate.isQuote quote = true) (leftStands : StandsBeside quote left)
    (rightStands : StandsBeside quote right) :
    Candidate.QuotedBody quote (left ++ (family.className state utility ++ right)) := by
  have quoteOther : isWordChar quote = false ∧ ':' ≠ quote := by
    rcases Candidate.isQuote_iff.mp isAQuote with rfl | rfl | rfl <;> decide
  refine Candidate.QuotedBody.of_forall fun c member => ?_
  rcases List.mem_append.mp member with inLeft | behind
  · exact leftStands.char c inLeft
  · rcases List.mem_append.mp behind with inClass | inRight
    · exact ⟨plain.ne rfl (by decide) c inClass, plain.ne quoteOther.1 quoteOther.2 c inClass,
        plain.ne rfl (by decide) c inClass⟩
    · exact rightStands.char c inRight

/-- A class in plain words is extracted from the attribute it stands in. -/
theorem PlainClass.mem_extract {family : Family} {state utility : Text}
    (plain : PlainClass family state utility) {name before left right : Text}
    (known : name ∈ Candidate.attributeNames)
    (opened : Candidate.opensAttribute before.getLast? = true) {quote : Char}
    (isAQuote : Candidate.isQuote quote = true) (leftStands : StandsBeside quote left)
    (rightStands : StandsBeside quote right)
    (leftEnds : ∀ c ∈ left.getLast?, StateSheet.isBlank c = true)
    (rightStarts : ∀ c ∈ right.head?, StateSheet.isBlank c = true) (rest : Text) :
    family.className state utility ∈
      Candidate.extract (before ++ (name ++ '=' :: quote ::
        ((left ++ (family.className state utility ++ right)) ++ quote :: rest))) := by
  have unspaced : ∀ c ∈ ([] : Text), StateSheet.isBlank c = true := by simp
  have listed := Candidate.mem_classLists_of_assigned known opened unspaced unspaced isAQuote
    (plain.quotedBody isAQuote leftStands rightStands) rest
  have hidden : Nesting.Hides {} (StateSheet.isBlank · = true)
      (family.className state utility) := by
    refine Nesting.hides_of_forall_not fun c member blank => ?_
    rw [plain.isBlank c member] at blank
    cases blank
  have present : family.className state utility ≠ [] := by
    simp [Family.className]
  refine Candidate.mem_extract_iff.mpr ⟨_, listed, ?_, plain.isValid⟩
  exact Candidate.mem_tokens_of_between_blanks leftEnds leftStands.after hidden present
    (Nesting.after_of_plain plain.isBracket) rightStarts

/-- **A class that an author writes into an attribute reaches the stylesheet.**
Whatever text stands in front of the attribute and behind it, a class in plain
words with a usable utility is extracted, and the text generated from all the
candidates contains its rule. -/
theorem plain_class_reaches_stylesheet (settings : Settings) {family : Family}
    {state utility declared : Text} (plain : PlainClass family state utility)
    (known : settings.utility? utility = some declared)
    (usable : Declaration.readAll declared ≠ []) {name : Text}
    (holdsClasses : name ∈ Candidate.attributeNames) (before : Text)
    (standsAlone : ∀ c ∈ before.getLast?, isBlank c = true ∨ c ∈ ['<', '\x7b', '(', ','])
    {quote : Char} (isAQuote : quote ∈ ['"', '\'', '`']) (left right : Text)
    (leftStands : StandsBeside quote left) (rightStands : StandsBeside quote right)
    (leftEnds : ∀ c ∈ left.getLast?, isBlank c = true)
    (rightStarts : ∀ c ∈ right.head?, isBlank c = true) (rest : Text) :
    (Layout.ofMinify settings.minify).rule
        { selector := family.template state ('.' :: (family.name state ++ ['\\', ':'] ++ utility))
          declarations := Declaration.readAll declared } <:+:
      (Generation.ofClasses settings
        (Candidate.extract (before ++ (name ++ '=' :: quote ::
          ((left ++ (family.className state utility ++ right)) ++ quote :: rest))))).css := by
  have opened : Candidate.opensAttribute before.getLast? = true := by
    cases last : before.getLast? with
    | none => rfl
    | some c =>
        have allowed := standsAlone c last
        simpa [Candidate.opensAttribute, or_assoc] using allowed
  have quotes : Candidate.isQuote quote = true := by
    simpa [Candidate.isQuote_iff] using isAQuote
  have extracted := plain.mem_extract holdsClasses opened quotes leftStands rightStands leftEnds
    rightStarts rest
  exact Generation.rule_infix_css extracted (plain.isOf known usable)

/-- A class between others, behind a stray quote and in front of an attribute that
is never closed. -/
theorem negated_class_reaches_stylesheet :
    PlainClass .notState "open".toList "block".toList ∧
    Settings.utility? {} "block".toList = some "display: block".toList ∧
    (Layout.ofMinify false).rule
        { selector := ".ui-not-open\\:block:not([data-state=\"open\"])".toList
          declarations := [⟨"display".toList, "block".toList⟩] } <:+:
      (Generation.ofClasses {} (Candidate.extract
        "it's <p id=\" class='p-2 ui-not-open:block m-1' class=\"".toList)).css := by
  have plain : PlainClass .notState "open".toList "block".toList :=
    { keeps := by decide
      stateGiven := by decide
      stateWord := List.all_eq_true.mp (by decide)
      utilityGiven := by decide
      utilityWord := List.all_eq_true.mp (by decide) }
  have known : Settings.utility? {} "block".toList = some "display: block".toList := by decide
  have holdsClasses : "class".toList ∈ Candidate.attributeNames := by decide
  have isAQuote : '\'' ∈ ['"', '\'', '`'] := by decide
  have standsAlone : ∀ c ∈ "it's <p id=\" ".toList.getLast?,
      isBlank c = true ∨ c ∈ ['<', '\x7b', '(', ','] := by
    rintro c ⟨⟩
    exact Or.inl rfl
  have leftEnds : ∀ c ∈ "p-2 ".toList.getLast?, isBlank c = true := by
    rintro c ⟨⟩
    rfl
  have rightStarts : ∀ c ∈ " m-1".toList.head?, isBlank c = true := by
    rintro c ⟨⟩
    rfl
  refine ⟨plain, known, ?_⟩
  exact plain_class_reaches_stylesheet {} plain known (by decide) holdsClasses _ standsAlone
    isAQuote _ _ (by decide) (by decide) leftEnds rightStarts " class=\"".toList

end StateSheet
