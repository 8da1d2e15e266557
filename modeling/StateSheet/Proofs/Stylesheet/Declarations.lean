import StateSheet.Proofs.Path.Segments
import StateSheet.Proofs.Stylesheet.Generation
import StateSheet.Proofs.Text.Joined
import StateSheet.Proofs.Text.Trim

/-!
# Declarations read back

Declarations that are read from a text are proper (`Declaration.isProper_of_mem_readAll`):
property and value are there and trimmed, neither holds a semicolon, and the property holds no
colon. A proper declaration is read from any text that has blanks at most around its property
and its value (`Declaration.read?_spaced`), and so are several of them with semicolons between
(`Declaration.readAll_spaced`).

Both layouts write the declarations of a rule in this way. What stands between the braces of a
rule therefore declares what the rule does (`Layout.readAll_body`), and a utility may as well be
declared by that (`declarations_survive_writing`).
-/

set_option autoImplicit false

namespace StateSheet

/-- A text is cut at a separator that does not stand in front of it before. -/
theorem Text.cut?_append {separator : Char} {before : Text} (free : separator ∉ before)
    (after : Text) : cut? separator (before ++ separator :: after) = some (before, after) := by
  induction before with
  | nil => rw [List.nil_append, cut?, if_pos rfl]
  | cons c rest ih =>
      obtain ⟨different, restFree⟩ := not_or.mp (mt List.mem_cons.mpr free)
      rw [List.cons_append, cut?, if_neg (Ne.symm different), ih restFree, Option.map_some]

namespace Declaration

/-! ## Proper declarations -/

/-- A declaration as it is read from a text. -/
structure IsProper (declaration : Declaration) : Prop where
  property_ne_nil : declaration.property ≠ []
  property_trimmed : declaration.property.IsTrimmed
  property_colon : ':' ∉ declaration.property
  property_semicolon : ';' ∉ declaration.property
  value_ne_nil : declaration.value ≠ []
  value_trimmed : declaration.value.IsTrimmed
  value_semicolon : ';' ∉ declaration.value

theorem isProper_of_read? {piece : Text} (free : ';' ∉ piece) {declaration : Declaration}
    (read : read? piece = some declaration) : declaration.IsProper := by
  unfold read? at read
  split at read
  · cases read
  · next before after found =>
      simp only [Option.ite_none_left_eq_some, not_or, Option.some.injEq] at read
      obtain ⟨⟨propertyGiven, valueGiven⟩, rfl⟩ := read
      have whole := Text.eq_of_cut?_eq_some found
      have beforeFree : ';' ∉ before := fun member =>
        free (whole ▸ List.mem_append_left _ member)
      have afterFree : ';' ∉ after := fun member =>
        free (whole ▸ List.mem_append_right _ (List.mem_cons_of_mem _ member))
      exact
        { property_ne_nil := propertyGiven
          property_trimmed := Text.isTrimmed_trim before
          property_colon := fun member =>
            Text.not_mem_of_cut?_eq_some found (Text.mem_of_mem_trim member)
          property_semicolon := fun member => beforeFree (Text.mem_of_mem_trim member)
          value_ne_nil := valueGiven
          value_trimmed := Text.isTrimmed_trim after
          value_semicolon := fun member => afterFree (Text.mem_of_mem_trim member) }

/-- **What is read from a text are proper declarations.** -/
theorem isProper_of_mem_readAll {text : Text} {declaration : Declaration}
    (member : declaration ∈ readAll text) : declaration.IsProper := by
  obtain ⟨piece, among, read⟩ := List.mem_filterMap.mp member
  exact isProper_of_read? (Text.not_mem_of_mem_pieces among) read

/-! ## Spaced declarations -/

/-- A declaration with texts in front of it and behind its colon. -/
def spaced (lead gap : Text) (declaration : Declaration) : Text :=
  lead ++ declaration.property ++ ':' :: (gap ++ declaration.value)

variable {lead gap trail : Text}

theorem semicolon_not_mem_of_blank {blanks : Text} (blank : ∀ c ∈ blanks, isBlank c = true) :
    ';' ∉ blanks := by
  intro member
  exact absurd (blank ';' member) (by decide)

/-- **Blanks around a property and a value do not change how they are read.** -/
theorem read?_spaced (leadBlank : ∀ c ∈ lead, isBlank c = true)
    (gapBlank : ∀ c ∈ gap, isBlank c = true) (trailBlank : ∀ c ∈ trail, isBlank c = true)
    {declaration : Declaration} (proper : declaration.IsProper) :
    read? (declaration.spaced lead gap ++ trail) = some declaration := by
  have colonFree : ':' ∉ lead ++ declaration.property := by
    rw [List.mem_append, not_or]
    exact ⟨fun member => absurd (leadBlank ':' member) (by decide), proper.property_colon⟩
  have property : Text.trim (lead ++ declaration.property) = declaration.property := by
    have trimmed := Text.trim_between_blanks leadBlank (List.forall_mem_nil _)
      proper.property_trimmed proper.property_ne_nil
    rwa [List.append_nil] at trimmed
  have value : Text.trim (gap ++ (declaration.value ++ trail)) = declaration.value :=
    Text.trim_between_blanks gapBlank trailBlank proper.value_trimmed proper.value_ne_nil
  have shape : declaration.spaced lead gap ++ trail =
      lead ++ declaration.property ++ ':' :: (gap ++ (declaration.value ++ trail)) := by
    simp [spaced]
  rw [shape, read?, Text.cut?_append colonFree]
  simp only [property, value, proper.property_ne_nil, proper.value_ne_nil, or_self, if_false]

theorem semicolon_not_mem_spaced (leadBlank : ∀ c ∈ lead, isBlank c = true)
    (gapBlank : ∀ c ∈ gap, isBlank c = true) {declaration : Declaration}
    (proper : declaration.IsProper) : ';' ∉ declaration.spaced lead gap := by
  simp [spaced, semicolon_not_mem_of_blank leadBlank, semicolon_not_mem_of_blank gapBlank,
    proper.property_semicolon, proper.value_semicolon]

theorem readAll_append_separator (first second : Text) :
    readAll (first ++ ';' :: second) = readAll first ++ readAll second := by
  rw [readAll, Text.pieces_append_separator, List.filterMap_append]
  rfl

theorem readAll_of_read? {piece : Text} (free : ';' ∉ piece) {declaration : Declaration}
    (read : read? piece = some declaration) : readAll piece = [declaration] := by
  rw [readAll, Text.pieces_of_not_mem free, List.filterMap_cons_some read, List.filterMap_nil]

/-- **Spaced declarations with semicolons between are read one after another.** -/
theorem readAll_spaced (leadBlank : ∀ c ∈ lead, isBlank c = true)
    (gapBlank : ∀ c ∈ gap, isBlank c = true) (trailBlank : ∀ c ∈ trail, isBlank c = true)
    {declarations : List Declaration} (present : declarations ≠ [])
    (proper : ∀ declaration ∈ declarations, declaration.IsProper) :
    readAll ([';'].intercalate (declarations.map (spaced lead gap)) ++ trail) = declarations := by
  induction declarations with
  | nil => exact absurd rfl present
  | cons first rest ih =>
      obtain ⟨firstProper, restProper⟩ := List.forall_mem_cons.mp proper
      have free := semicolon_not_mem_spaced leadBlank gapBlank firstProper
      cases rest with
      | nil =>
          have trailFree : ';' ∉ first.spaced lead gap ++ trail := by
            rw [List.mem_append, not_or]
            exact ⟨free, semicolon_not_mem_of_blank trailBlank⟩
          rw [List.map_singleton, List.intercalate_singleton]
          exact readAll_of_read? trailFree
            (read?_spaced leadBlank gapBlank trailBlank firstProper)
      | cons second others =>
          have alone := read?_spaced leadBlank gapBlank (List.forall_mem_nil _) firstProper
          rw [List.append_nil] at alone
          rw [List.map_cons, List.map_cons, List.intercalate_cons_cons, List.append_assoc,
            List.append_assoc, List.singleton_append, readAll_append_separator,
            readAll_of_read? free alone, ← List.map_cons,
            ih (List.cons_ne_nil _ _) restProper, List.singleton_append]

end Declaration

/-! ## Bodies of rules -/

namespace Layout

/-- The text in front of the body of a rule, behind its selector. -/
def opening : Layout → Text
  | minified => ['\x7b']
  | pretty => [' ', '\x7b']

theorem rule_eq (layout : Layout) (rule : Rule) :
    layout.rule rule =
      rule.selector ++ layout.opening ++ layout.body rule.declarations ++ ['\x7d'] := by
  cases layout <;> rfl

theorem body_minified (declarations : List Declaration) :
    minified.body declarations =
      [';'].intercalate (declarations.map (Declaration.spaced [] [])) ++ [] := by
  have written : Declaration.spaced [] [] = fun declaration =>
      declaration.property ++ [':'] ++ declaration.value := by
    funext declaration
    simp [Declaration.spaced]
  rw [written, List.append_nil]
  rfl

theorem body_pretty {declarations : List Declaration} (present : declarations ≠ []) :
    pretty.body declarations =
      [';'].intercalate (declarations.map (Declaration.spaced ['\n', ' ', ' '] [' '])) ++
        ['\n'] := by
  have lines : ['\n'] ++ [';', '\n'].intercalate (declarations.map fun declaration =>
      [' ', ' '] ++ declaration.property ++ [':', ' '] ++ declaration.value) =
        [';'].intercalate (declarations.map (Declaration.spaced ['\n', ' ', ' '] [' '])) := by
    rw [show [';', '\n'] = [';'] ++ ['\n'] from rfl,
      Text.append_intercalate (by simpa using present), List.map_map]
    congr 1
    refine List.map_congr_left fun declaration _ => ?_
    simp [Declaration.spaced]
  rw [← lines]
  rfl

/-- **The body of a rule declares what the rule does**, in both layouts. -/
theorem readAll_body (layout : Layout) {declarations : List Declaration}
    (proper : ∀ declaration ∈ declarations, declaration.IsProper) :
    Declaration.readAll (layout.body declarations) = declarations := by
  by_cases present : declarations = []
  · subst present
    cases layout <;> rfl
  · cases layout with
    | minified =>
        rw [body_minified]
        exact Declaration.readAll_spaced (by simp) (by simp) (by simp) present proper
    | pretty =>
        rw [body_pretty present]
        exact Declaration.readAll_spaced (List.all_eq_true.mp rfl) (List.all_eq_true.mp rfl)
          (List.all_eq_true.mp rfl) present proper

end Layout

/-! ## Utilities that declare the same -/

/-- A class whose variant is registered and whose utility is known has a rule unless nothing is
declared. -/
theorem Fate.rule?_of {registry : Registry} {utilities : Utilities}
    {className token utility selector declared : Text}
    (cut : ClassName.split? className = some (token, utility))
    (registered : registry.selector? token className = some selector)
    (known : utilities.get? utility = some declared) :
    (Fate.of registry utilities className).rule? =
      if Declaration.readAll declared = [] then none
      else some { selector, declarations := Declaration.readAll declared } := by
  simp only [Fate.of, cut, registered, known]
  cases Declaration.readAll declared with
  | nil => rfl
  | cons first more => rfl

/-- The fate of a class depends on what its utility declares, not on how that is written. -/
theorem Fate.ofClass_congr {first second : Text → Option Text}
    (same : ∀ name, (first name).map Declaration.readAll = (second name).map Declaration.readAll)
    (className : Text) : Fate.ofClass first className = Fate.ofClass second className := by
  unfold Fate.ofClass
  cases ClassName.split? className with
  | none => rfl
  | some parts =>
      obtain ⟨token, utility⟩ := parts
      dsimp only
      cases Variant.read token with
      | error fault => cases fault <;> rfl
      | ok variant =>
          have here := same utility
          cases inFirst : first utility with
          | none =>
              rw [inFirst, Option.map_none, eq_comm, Option.map_eq_none_iff] at here
              rw [here]
          | some declared =>
              rw [inFirst, Option.map_some, eq_comm, Option.map_eq_some_iff] at here
              obtain ⟨other, inSecond, agree⟩ := here
              simp only [inSecond, agree]

/-- Utilities that declare the same make the same stylesheet. -/
theorem Stylesheet.ofClasses_congr {utilities others : Utilities}
    (same : ∀ name, (utilities.get? name).map Declaration.readAll =
      (others.get? name).map Declaration.readAll) (classes : List Text) :
    ofClasses utilities classes = ofClasses others classes := by
  have fates := Fate.ofClass_congr same
  refine eq_of_get?_eq (fun className => ?_) ?_
  · rw [get?_ofClasses, get?_ofClasses, fates]
  · rw [skipped_ofClasses, skipped_ofClasses]
    simp only [fates]

/-- **A utility may be declared by any text that declares the same.** -/
theorem Generation.ofClasses_redeclared {settings : Settings} {name declared other : Text}
    (known : settings.utility? name = some declared)
    (same : Declaration.readAll other = Declaration.readAll declared) (classes : List Text) :
    ofClasses { settings with utilities := settings.utilities.insert name other } classes =
      ofClasses settings classes := by
  let redeclared : Settings :=
    { settings with utilities := settings.utilities.insert name other }
  have agree : ∀ sought, (redeclared.utilities.extended.get? sought).map Declaration.readAll =
      (settings.utilities.extended.get? sought).map Declaration.readAll := by
    intro sought
    rw [redeclared.get?_extended, settings.get?_extended]
    by_cases here : sought = name
    · rw [here, known, Settings.utility?, SortedTable.get?_insert, if_pos rfl, Option.some_or,
        Option.map_some, Option.map_some, same]
    · rw [Settings.utility?, SortedTable.get?_insert, if_neg here, Settings.utility?]
  have sheets := Stylesheet.ofClasses_congr agree classes
  simp only [ofClasses]
  rw [show settings.utilities.insert name other = redeclared.utilities from rfl, sheets]

/-- **Declarations survive being written.** What is read from a text that declares a utility
are properties and values that are trimmed and not empty, without semicolons and, up to the
colon between them, without colons. A class has a rule when there is at least one of them. In
both layouts the declarations of the rule are read back from the body between its braces, so
the utility may be declared by that body instead, and whatever is generated stays as it is. -/
theorem declarations_survive_writing (declared : Text) :
    (∀ (registry : Registry) (utilities : Utilities) (className token utility selector : Text),
      ClassName.split? className = some (token, utility) →
        registry.selector? token className = some selector →
          utilities.get? utility = some declared →
            (Fate.of registry utilities className).rule? =
              if Declaration.readAll declared = [] then none
              else some { selector, declarations := Declaration.readAll declared }) ∧
    (∀ declaration ∈ Declaration.readAll declared, declaration.IsProper) ∧
    ∀ layout : Layout,
      (∀ selector, layout.rule { selector, declarations := Declaration.readAll declared } =
        selector ++ layout.opening ++ layout.body (Declaration.readAll declared) ++ ['\x7d']) ∧
      Declaration.readAll (layout.body (Declaration.readAll declared)) =
        Declaration.readAll declared ∧
      ∀ (settings : Settings) (name : Text), settings.utility? name = some declared →
        ∀ classes, Generation.ofClasses
            { settings with
              utilities := settings.utilities.insert name
                (layout.body (Declaration.readAll declared)) } classes =
          Generation.ofClasses settings classes := by
  have proper : ∀ declaration ∈ Declaration.readAll declared, declaration.IsProper :=
    fun _ => Declaration.isProper_of_mem_readAll
  refine ⟨fun registry utilities className token utility selector => Fate.rule?_of, proper,
    fun layout => ?_⟩
  have readBack := layout.readAll_body proper
  exact ⟨fun selector => layout.rule_eq _, readBack,
    fun settings name known => Generation.ofClasses_redeclared known readBack⟩

/-- A value with a colon, an ideographic space, and three pieces that declare nothing. -/
theorem declarations_survive_writing_around_odd_pieces :
    let declared := " color : red;;: x;b:;background\u3000: url(a:b) ; ".toList
    let body := "\n  color: red;\n  background: url(a:b)\n".toList
    let settings : Settings := { utilities := SortedTable.empty.insert "alert".toList declared }
    let className := "ui-open:alert".toList
    (Fate.of (Registry.empty.register [className]) settings.utilities.extended className).rule? =
      some
        { selector := ".ui-open\\:alert[data-state=\"open\"]".toList
          declarations :=
            [⟨"color".toList, "red".toList⟩, ⟨"background".toList, "url(a:b)".toList⟩] } ∧
    ∀ classes, Generation.ofClasses
        { settings with utilities := settings.utilities.insert "alert".toList body } classes =
      Generation.ofClasses settings classes := by
  intro declared body settings className
  obtain ⟨fate, -, written⟩ := declarations_survive_writing declared
  have read : Declaration.readAll declared =
      [⟨"color".toList, "red".toList⟩, ⟨"background".toList, "url(a:b)".toList⟩] := by decide
  have pretty : Layout.pretty.body (Declaration.readAll declared) = body := by
    rw [read]
    decide
  have ruled := fate (Registry.empty.register [className]) settings.utilities.extended className
    "ui-open".toList "alert".toList ".ui-open\\:alert[data-state=\"open\"]".toList
    (by decide) (by decide) (by decide)
  rw [read, if_neg (List.cons_ne_nil _ _)] at ruled
  have redeclared := (written .pretty).2.2 settings "alert".toList (by decide)
  rw [pretty] at redeclared
  exact ⟨ruled, redeclared⟩

end StateSheet
