import StateSheet.Command.Run

/-!
# Layouts up to blanks

The two layouts write the same rules and differ in blanks only. Without its blanks, the
text of a stylesheet is the text of its rules one behind another, each the selector, a
brace, the declarations and a brace (`Stylesheet.withoutBlanks_render`), and the banner
stands in front of that whatever is put between them (`withoutBlanks_stylesheetText`).

So nothing needs to be known about the texts of selectors, properties and values, which may
hold blanks, braces and line ends themselves. And settings that differ in the layout only
make the same rules and the same counts (`Generation.ofClasses_layouts`).
-/

set_option autoImplicit false

namespace StateSheet

/-! ## Texts without blanks -/

/-- A text without its blanks. -/
def Text.withoutBlanks (text : Text) : Text := text.filter fun c => !isBlank c

namespace Text

@[simp] theorem withoutBlanks_nil : withoutBlanks [] = [] := rfl

theorem withoutBlanks_cons (c : Char) (text : Text) :
    withoutBlanks (c :: text) =
      if isBlank c then text.withoutBlanks else c :: text.withoutBlanks := by
  cases blank : isBlank c <;> simp [withoutBlanks, blank]

theorem withoutBlanks_append (first second : Text) :
    (first ++ second).withoutBlanks = first.withoutBlanks ++ second.withoutBlanks :=
  List.filter_append ..

theorem withoutBlanks_intercalate (separator : Text) (texts : List Text) :
    withoutBlanks (separator.intercalate texts) =
      separator.withoutBlanks.intercalate (texts.map withoutBlanks) := by
  induction texts with
  | nil => rfl
  | cons first rest ih =>
      cases rest with
      | nil => simp
      | cons second others =>
          rw [List.intercalate_cons_cons, withoutBlanks_append, withoutBlanks_append, ih]
          simp [List.intercalate_cons_cons]

theorem intercalate_nil (texts : List Text) : ([] : Text).intercalate texts = texts.flatten := by
  induction texts with
  | nil => rfl
  | cons first rest ih =>
      cases rest with
      | nil => simp
      | cons second others => simp [List.intercalate_cons_cons, ih]

end Text

/-! ## Rules -/

/-- A declaration without blanks. -/
def Declaration.tight (declaration : Declaration) : Text :=
  declaration.property.withoutBlanks ++ ':' :: declaration.value.withoutBlanks

/-- A rule without blanks. -/
def Rule.tight (rule : Rule) : Text :=
  rule.selector.withoutBlanks ++ ['\x7b'] ++
    [';'].intercalate (rule.declarations.map Declaration.tight) ++ ['\x7d']

/-- The characters that layouts add around selectors, properties and values, of which the
line end and the space are blanks. -/
theorem isBlank_ofLayout : isBlank '\n' = true ∧ isBlank ' ' = true ∧ isBlank ':' = false ∧
    isBlank ';' = false ∧ isBlank '\x7b' = false ∧ isBlank '\x7d' = false := by decide

theorem Layout.withoutBlanks_body (layout : Layout) (declarations : List Declaration) :
    (layout.body declarations).withoutBlanks =
      [';'].intercalate (declarations.map Declaration.tight) := by
  have tight : Declaration.tight = fun declaration =>
      declaration.property.withoutBlanks ++ ':' :: declaration.value.withoutBlanks := rfl
  cases layout <;>
    simp [body, Text.withoutBlanks_intercalate, Text.withoutBlanks_append,
      Text.withoutBlanks_cons, isBlank_ofLayout, Function.comp_def, tight]

/-- **Without blanks, a rule is the same in both layouts.** -/
theorem Layout.withoutBlanks_rule (layout : Layout) (rule : Rule) :
    (layout.rule rule).withoutBlanks = rule.tight := by
  cases layout <;>
    simp [Layout.rule, Text.withoutBlanks_append, Text.withoutBlanks_cons, isBlank_ofLayout,
      withoutBlanks_body, Rule.tight]

/-! ## Stylesheets -/

/-- **Without blanks, a stylesheet is its rules one behind another**, in both layouts. -/
theorem Stylesheet.withoutBlanks_render (sheet : Stylesheet) (layout : Layout) :
    (sheet.render layout).withoutBlanks = sheet.rules.values.flatMap Rule.tight := by
  have separator : layout.separator.withoutBlanks = [] := by
    cases layout <;> decide
  rw [render, Text.withoutBlanks_intercalate, separator, Text.intercalate_nil, List.map_map,
    List.flatMap_def]
  exact congrArg List.flatten (List.map_congr_left fun rule _ => layout.withoutBlanks_rule rule)

/-- **Without blanks, what a build puts out is the banner and the rules**, also if there
are none. -/
theorem withoutBlanks_stylesheetText (minify : Bool) (css : Text) :
    (stylesheetText minify css).withoutBlanks = banner.withoutBlanks ++ css.withoutBlanks := by
  unfold stylesheetText
  split
  · rename_i bare
    simp [bare, Text.withoutBlanks_append, Text.withoutBlanks_cons, isBlank_ofLayout]
  · split
    · exact Text.withoutBlanks_append ..
    · simp [Text.withoutBlanks_append, Text.withoutBlanks_cons, isBlank_ofLayout]

/-- **Settings that differ in the layout only make the same rules**, written one behind
another or a line apart, and the same counts. -/
theorem Generation.ofClasses_layouts (settings : Settings) (classes : List Text) :
    let minified := Generation.ofClasses { settings with minify := true } classes
    let pretty := Generation.ofClasses { settings with minify := false } classes
    minified.ruleCount = pretty.ruleCount ∧ minified.skipped = pretty.skipped ∧
      ∃ rules : List Rule, rules.length = pretty.ruleCount ∧
        minified.css = rules.flatMap Layout.minified.rule ∧
        pretty.css = ['\n'].intercalate (rules.map Layout.pretty.rule) := by
  refine ⟨rfl, rfl, (Stylesheet.ofClasses settings.utilities.extended classes).rules.values,
    List.length_map .., ?_, rfl⟩
  rw [List.flatMap_def]
  exact Text.intercalate_nil _

end StateSheet
