import StateSheet.Stylesheet.Generation
import StateSheet.Proofs.Stylesheet.Fate
import StateSheet.Proofs.Text.ByteOrder

/-!
# Generation, class by class

The text of a stylesheet is the join of the rules that the classes have alone
(`generation_class_by_class`). A class stands in it once, however often it is
listed, the rules are in the order of the bytes of their classes, and the
counts are those of the rules and of the places in the list whose class asks
for a rule in vain. In what order the classes are listed makes no difference
(`Stylesheet.ofClasses_perm`).
-/

set_option autoImplicit false

namespace StateSheet

/-- What settings declare for a utility: their own declarations, or else the
standard ones. -/
def Settings.utility? (settings : Settings) (name : Text) : Option Text :=
  (settings.utilities.get? name).or (Utilities.standard.get? name)

theorem Settings.get?_extended (settings : Settings) :
    settings.utilities.extended.get? = settings.utility? := by
  funext name
  exact SortedTable.get?_insertAll_entries Utilities.standard settings.utilities name

namespace Stylesheet

/-- **The rules of a stylesheet are those that its classes have alone.** -/
theorem mem_rules_iff {utilities : Utilities} {classes : List Text} {className : Text}
    {rule : Rule} :
    (className, rule) ∈ (ofClasses utilities classes).rules.entries ↔
      className ∈ classes ∧ rule.IsOf utilities.get? className := by
  rw [SortedTable.mem_entries_iff, get?_ofClasses, ← Fate.ofClass_eq_ruled_iff]
  by_cases listed : className ∈ classes
  · rw [if_pos listed, and_iff_right listed]
    cases Fate.ofClass utilities.get? className <;> simp [Fate.rule?]
  · simp [listed]

/-- Stylesheets with the same rules for the same classes and the same count are the same. -/
theorem eq_of_get?_eq {first second : Stylesheet}
    (rules : ∀ className, first.rules.get? className = second.rules.get? className)
    (skipped : first.skipped = second.skipped) : first = second := by
  have tables := SortedTable.eq_of_get?_eq rules
  cases first
  cases second
  cases tables
  cases skipped
  rfl

/-- **The order of a class list makes no difference to its stylesheet.** -/
theorem ofClasses_perm (utilities : Utilities) {classes others : List Text}
    (permuted : classes.Perm others) :
    ofClasses utilities classes = ofClasses utilities others := by
  refine eq_of_get?_eq (fun className => ?_) ?_
  · rw [get?_ofClasses, get?_ofClasses]
    simp only [permuted.mem_iff]
  · rw [skipped_ofClasses, skipped_ofClasses, permuted.countP_eq]

theorem rules_in_byte_order (sheet : Stylesheet) :
    sheet.rules.entries.Pairwise fun earlier later => earlier.1.bytes < later.1.bytes :=
  sheet.rules.ascending.imp Text.bytes_lt_bytes

end Stylesheet

/-- **A stylesheet is put together from what its classes have alone.** There is
one rule for each class of the list that has one, in the order of the bytes of
the classes; the text joins them, and the counts are those of the rules and of
the places whose class asks for a rule in vain. -/
theorem generation_class_by_class (settings : Settings) (classes : List Text) :
    ∃ ruled : List (Text × Rule),
      (ruled.Pairwise fun earlier later => earlier.1.bytes < later.1.bytes) ∧
      (∀ className rule, (className, rule) ∈ ruled ↔
        className ∈ classes ∧ rule.IsOf settings.utility? className) ∧
      (Generation.ofClasses settings classes).css =
        (if settings.minify then [] else ['\n']).intercalate
          (ruled.map fun entry => (Layout.ofMinify settings.minify).rule entry.2) ∧
      (Generation.ofClasses settings classes).ruleCount = ruled.length ∧
      (Generation.ofClasses settings classes).skipped =
        classes.countP fun className => ClassName.AsksInVain settings.utility? className := by
  let sheet := Stylesheet.ofClasses settings.utilities.extended classes
  refine ⟨sheet.rules.entries, sheet.rules_in_byte_order, fun className rule => ?_, ?_, rfl, ?_⟩
  · rw [Stylesheet.mem_rules_iff, settings.get?_extended]
  · have separated : (Layout.ofMinify settings.minify).separator =
        if settings.minify then [] else ['\n'] := by
      cases settings.minify <;> rfl
    rw [← separated]
    simp only [Generation.ofClasses, Stylesheet.render, SortedTable.values, List.map_map]
    rfl
  · simp only [Generation.ofClasses, Stylesheet.skipped_ofClasses, settings.get?_extended,
      Fate.ofClass_eq_skipped_iff]

end StateSheet
