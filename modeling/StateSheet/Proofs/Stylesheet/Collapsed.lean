import StateSheet.Proofs.Stylesheet.Declarations
import StateSheet.Proofs.Text.Words

/-!
# Stylesheets collapsed

Collapsing puts the rules of a pretty stylesheet on one line each. What becomes of a rule is
told by its parts (`Rule.collapsed`): the selector, the properties and the values are collapsed
on their own, and the marks between them stay where the layout puts them
(`Layout.collapsed_rule`). This needs that a property and a value that were read end in visible
characters, as the colon and the semicolon behind them would make words of their own otherwise.

A stylesheet is then the join of its rules by single spaces (`collapsed_rule_by_rule`), whatever
blanks stand in the class names and in the values.
-/

set_option autoImplicit false

namespace StateSheet

/-- A property and a value in collapsed form. -/
def Declaration.collapsed (declaration : Declaration) : Text :=
  declaration.property.collapsed ++ ": ".toList ++ declaration.value.collapsed

/-- A rule in collapsed form, put together from its collapsed parts. -/
def Rule.collapsed (rule : Rule) : Text :=
  rule.selector.collapsed ++ " \x7b ".toList ++
    "; ".toList.intercalate (rule.declarations.map Declaration.collapsed) ++ " \x7d".toList

/-! ## Declarations -/

theorem Text.IsTrimmed.exists_visible {text : Text} (trimmed : text.IsTrimmed)
    (present : text ≠ []) : ∃ c ∈ text, isBlank c = false := by
  obtain ⟨c, rest, rfl⟩ := List.exists_cons_of_ne_nil present
  exact ⟨c, List.mem_cons_self .., trimmed.start c rfl⟩

namespace Declaration

/-- The line of a declaration in a pretty stylesheet. -/
def line (declaration : Declaration) : Text := declaration.spaced [' ', ' '] [' ']

theorem line_eq (declaration : Declaration) :
    declaration.line =
      ' ' :: ' ' :: (declaration.property ++ [':'] ++ ' ' :: declaration.value) := by
  simp [line, spaced]

theorem exists_visible_line (declaration : Declaration) :
    ∃ c ∈ declaration.line, isBlank c = false :=
  ⟨':', by simp [line_eq], rfl⟩

variable {declaration : Declaration}

theorem collapsed_line (proper : declaration.IsProper) :
    declaration.line.collapsed = declaration.collapsed := by
  have property : ∃ c ∈ declaration.property ++ [':'], isBlank c = false := ⟨':', by simp, rfl⟩
  have value := proper.value_trimmed.exists_visible proper.value_ne_nil
  rw [line_eq, Text.collapsed_blank_cons rfl, Text.collapsed_blank_cons rfl,
    Text.collapsed_append_blank rfl property value,
    Text.collapsed_concat proper.property_ne_nil proper.property_trimmed.finish rfl, collapsed,
    List.append_assoc, List.append_assoc]
  rfl

theorem collapsed_line_semicolon (proper : declaration.IsProper) :
    (declaration.line ++ [';']).collapsed = declaration.line.collapsed ++ [';'] := by
  have shape : declaration.line =
      (' ' :: ' ' :: (declaration.property ++ [':', ' '])) ++ declaration.value := by
    simp [line_eq]
  refine Text.collapsed_concat (by simp [line_eq]) (fun c last => ?_) rfl
  rw [shape, List.getLast?_append_of_ne_nil _ proper.value_ne_nil] at last
  exact proper.value_trimmed.finish c last

end Declaration

/-! ## Rules -/

namespace Layout

theorem rule_pretty (rule : Rule) :
    pretty.rule rule =
      rule.selector ++ ' ' :: (['\x7b'] ++ '\n' ::
        ([';', '\n'].intercalate (rule.declarations.map Declaration.line) ++ '\n' :: ['\x7d'])) := by
  have lines : rule.declarations.map Declaration.line =
      rule.declarations.map fun declaration =>
        [' ', ' '] ++ declaration.property ++ [':', ' '] ++ declaration.value :=
    List.map_congr_left fun declaration _ => by simp [Declaration.line_eq]
  rw [rule_eq, lines, opening, body]
  simp only [List.append_assoc, List.cons_append, List.nil_append]

theorem collapsed_lines {declarations : List Declaration}
    (proper : ∀ declaration ∈ declarations, declaration.IsProper) :
    Text.collapsed ([';', '\n'].intercalate (declarations.map Declaration.line)) =
      [';', ' '].intercalate (declarations.map Declaration.collapsed) := by
  have visible : ∀ text ∈ declarations.map Declaration.line, ∃ c ∈ text, isBlank c = false :=
    List.forall_mem_map.mpr fun declaration _ => declaration.exists_visible_line
  have glued : ∀ text ∈ declarations.map Declaration.line,
      (text ++ [';']).collapsed = text.collapsed ++ [';'] :=
    List.forall_mem_map.mpr fun declaration member =>
      Declaration.collapsed_line_semicolon (proper declaration member)
  have joined := Text.collapsed_intercalate (show isBlank '\n' = true from rfl) visible glued
  rw [List.map_map] at joined
  exact joined.trans (congrArg _ (List.map_congr_left fun declaration member =>
    Declaration.collapsed_line (proper declaration member)))

theorem exists_visible_rule (rule : Rule) : ∃ c ∈ pretty.rule rule, isBlank c = false :=
  ⟨'\x7b', by simp [rule_pretty], rfl⟩

/-- **A rule is collapsed part by part.** -/
theorem collapsed_rule {rule : Rule} (selected : ∃ c ∈ rule.selector, isBlank c = false)
    (present : rule.declarations ≠ [])
    (proper : ∀ declaration ∈ rule.declarations, declaration.IsProper) :
    (pretty.rule rule).collapsed = rule.collapsed := by
  have someLine : ∃ c ∈ [';', '\n'].intercalate (rule.declarations.map Declaration.line),
      isBlank c = false := by
    obtain ⟨first, member⟩ := List.exists_mem_of_ne_nil _ present
    obtain ⟨c, inLine, visible⟩ := first.exists_visible_line
    have infixed : first.line <:+: [';', '\n'].intercalate
        (rule.declarations.map Declaration.line) :=
      Text.infix_intercalate_of_mem (List.mem_map_of_mem member)
    exact ⟨c, infixed.subset inLine, visible⟩
  rw [rule_pretty, Text.collapsed_append_blank rfl selected ⟨'\x7b', by simp, rfl⟩,
    Text.collapsed_append_blank rfl ⟨'\x7b', by simp, rfl⟩ ⟨'\x7d', by simp, rfl⟩,
    Text.collapsed_append_blank rfl someLine ⟨'\x7d', by simp, rfl⟩, collapsed_lines proper,
    Text.collapsed_of_visible (List.cons_ne_nil '\x7b' []) (List.forall_mem_singleton.mpr rfl),
    Text.collapsed_of_visible (List.cons_ne_nil '\x7d' []) (List.forall_mem_singleton.mpr rfl)]
  simp only [Rule.collapsed, List.append_assoc]
  rfl

end Layout

/-! ## Stylesheets -/

/-- A selector holds the dot in front of the class. -/
theorem Selector.dot_mem_build (variant : Variant) (className : Text) :
    '.' ∈ build variant className := by
  unfold build
  cases variant.relation <;> simp

theorem Rule.IsOf.collapsed_rule {utility? : Text → Option Text} {className : Text} {rule : Rule}
    (own : rule.IsOf utility? className) : (Layout.pretty.rule rule).collapsed = rule.collapsed := by
  obtain ⟨token, utility, variant, declared, -, -, -, usable, selected, declares⟩ := own
  refine Layout.collapsed_rule ⟨'.', ?_, rfl⟩ (declares ▸ usable) ?_
  · rw [selected]
    exact Selector.dot_mem_build variant className
  · rw [declares]
    exact fun _ => Declaration.isProper_of_mem_readAll

/-- **Collapsed stylesheets are put together rule by rule.** Collapsing a collapsed text changes
nothing, and two texts collapse to the same when the same stretches free of blanks stand in them
in the same order. A pretty stylesheet collapses to the join of its rules by single spaces, in
the order of their classes, and in each rule the selector, the properties and the values are
collapsed on their own. -/
theorem collapsed_rule_by_rule :
    (∀ text : Text, text.collapsed.collapsed = text.collapsed) ∧
    (∀ first second : Text, first.collapsed = second.collapsed ↔
      (first.splitOnP isBlank).filter (· ≠ []) = (second.splitOnP isBlank).filter (· ≠ [])) ∧
    ∀ (settings : Settings) (classes : List Text), settings.minify = false →
      ∃ ruled : List (Text × Rule),
        (ruled.Pairwise fun earlier later => earlier.1.bytes < later.1.bytes) ∧
        (∀ className rule, (className, rule) ∈ ruled ↔
          className ∈ classes ∧ rule.IsOf settings.utility? className) ∧
        (Generation.ofClasses settings classes).css.collapsed =
          [' '].intercalate (ruled.map fun entry => entry.2.collapsed) := by
  refine ⟨Text.collapsed_collapsed, fun first second => ?_, fun settings classes spread => ?_⟩
  · rw [Text.collapsed_eq_iff, Text.words_eq_splitOnP, Text.words_eq_splitOnP]
  · let sheet := Stylesheet.ofClasses settings.utilities.extended classes
    have own : ∀ className rule, (className, rule) ∈ sheet.rules.entries ↔
        className ∈ classes ∧ rule.IsOf settings.utility? className := fun className rule => by
      rw [Stylesheet.mem_rules_iff, settings.get?_extended]
    refine ⟨sheet.rules.entries, sheet.rules_in_byte_order, own, ?_⟩
    have visible : ∀ text ∈ sheet.rules.values.map Layout.pretty.rule,
        ∃ c ∈ text, isBlank c = false :=
      List.forall_mem_map.mpr fun rule _ => Layout.exists_visible_rule rule
    have joined := Text.collapsed_intercalate (show isBlank '\n' = true from rfl) visible
      fun text _ => by rw [List.append_nil, List.append_nil]
    have written : (Generation.ofClasses settings classes).css =
        ['\n'].intercalate (sheet.rules.values.map Layout.pretty.rule) := by
      simp only [Generation.ofClasses, spread]
      rfl
    calc (Generation.ofClasses settings classes).css.collapsed
      _ = [' '].intercalate ((sheet.rules.values.map Layout.pretty.rule).map Text.collapsed) := by
        rw [written]
        exact joined
      _ = [' '].intercalate (sheet.rules.entries.map fun entry => entry.2.collapsed) := by
        rw [SortedTable.values, List.map_map, List.map_map]
        exact congrArg _ (List.map_congr_left fun entry member =>
          ((own entry.1 entry.2).mp member).2.collapsed_rule)

/-- A state with blanks of its own, and a value over several lines. -/
theorem collapsed_rule_by_rule_around_line_ends :
    let settings : Settings :=
      { utilities := SortedTable.empty.insert "note".toList
          "margin :0\n\n auto ; content: \"a:\t b\"".toList }
    let classes := ["ui-not-open:note".toList, "ui-group-a\u00a0\n b:note".toList]
    settings.minify = false ∧
      (∃ ruled : List (Text × Rule),
        (ruled.Pairwise fun earlier later => earlier.1.bytes < later.1.bytes) ∧
        (∀ className rule, (className, rule) ∈ ruled ↔
          className ∈ classes ∧ rule.IsOf settings.utility? className) ∧
        (Generation.ofClasses settings classes).css.collapsed =
          [' '].intercalate (ruled.map fun entry => entry.2.collapsed)) ∧
      (Generation.ofClasses settings classes).css.collapsed =
        (".group[data-state=\"a b\"] .ui-group-a b\\:note " ++
          "\x7b margin: 0 auto; content: \"a: b\" \x7d " ++
          ".ui-not-open\\:note:not([data-state=\"open\"]) " ++
          "\x7b margin: 0 auto; content: \"a: b\" \x7d").toList := by
  intro settings classes
  exact ⟨rfl, collapsed_rule_by_rule.2.2 settings classes rfl, by decide +kernel⟩

end StateSheet
