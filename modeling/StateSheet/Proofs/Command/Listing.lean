import StateSheet.Command.Run
import StateSheet.Proofs.Scan.Selection
import StateSheet.Proofs.Stylesheet.Accounting

/-!
# Listings and builds

A listing has one line for every scanned class that depends on a variant, with the
selector that the class has alone (`mem_listing_iff`). A build of the same files that is
printed has rules for listed classes only, each under the listed selector
(`selector_mem_listing`).

How many lines there are is told by what the build counts: the lines are the classes
that have a rule, those that are skipped for another reason than a missing state, and
those whose utility declares nothing (`size_listing_add_countP_lacksState`). The headline
puts this together for the two commands (`listing_agrees_with_builds`).

A line stands for a class. A class keeps the line ends inside its brackets, and then so
does its line.
-/

set_option autoImplicit false

namespace StateSheet

variable {workspace : Workspace}

/-! ## Listings -/

theorem get?_listing (classes : List Text) (className : Text) :
    (listing classes).get? className =
      if className ∈ classes then Selector.ofClass? className else none :=
  SortedTable.get?_ofEntries_filterMap Selector.ofClass? classes className

/-- **The lines of a listing are the classes that have a selector**, with that. -/
theorem mem_listing_iff {classes : List Text} {className selector : Text} :
    (className, selector) ∈ (listing classes).entries ↔
      className ∈ classes ∧ Selector.ofClass? className = some selector := by
  rw [SortedTable.mem_entries_iff, get?_listing]
  by_cases listed : className ∈ classes <;> simp [listed]

/-- The listed classes are those of the list that depend on a variant. -/
theorem keys_listing_perm {classes : List Text} (different : classes.Nodup) :
    (listing classes).keys.Perm
      (classes.filter fun className => (ClassName.variant? className).isSome) := by
  refine SortedTable.keys_perm_filter different fun className => ?_
  rw [SortedTable.contains, get?_listing]
  by_cases listed : className ∈ classes <;> simp [listed, Selector.ofClass?]

/-- **A class that has a rule is listed under the selector of the rule.** -/
theorem selector_mem_listing {utilities : Utilities} {classes : List Text} {className : Text}
    {rule : Rule}
    (ruled : (className, rule) ∈ (Stylesheet.ofClasses utilities classes).rules.entries) :
    (className, rule.selector) ∈ (listing classes).entries := by
  obtain ⟨listed, isOf⟩ := Stylesheet.mem_rules_iff.mp ruled
  obtain ⟨token, utility, variant, _, cut, named, _, _, selected, _⟩ := isOf
  have depends := ClassName.variant?_eq_some_iff.mpr ⟨token, utility, cut, named⟩
  refine mem_listing_iff.mpr ⟨listed, ?_⟩
  rw [Selector.ofClass?, depends, selected, Option.map_some]

/-- **What a build counts tells how many lines there are.** -/
theorem size_listing_add_countP_lacksState (utilities : Utilities) {classes : List Text}
    (different : classes.Nodup) :
    (listing classes).entries.length + classes.countP ClassName.lacksState =
      (Stylesheet.ofClasses utilities classes).ruleCount +
        (Stylesheet.ofClasses utilities classes).skipped +
          (listing classes).entries.countP fun line =>
            ClassName.declaresNothing utilities.get? line.1 := by
  have keys := keys_listing_perm different
  have lines : (listing classes).entries.length =
      classes.countP fun className => (ClassName.variant? className).isSome := by
    rw [List.countP_eq_length_filter, ← keys.length_eq, SortedTable.keys, List.length_map]
  have bare : ((listing classes).entries.countP fun line =>
        ClassName.declaresNothing utilities.get? line.1) =
      classes.countP fun className => ClassName.declaresNothing utilities.get? className &&
        (ClassName.variant? className).isSome := by
    have counted := keys.countP_eq (ClassName.declaresNothing utilities.get?)
    rwa [SortedTable.keys, List.countP_map, List.countP_filter] at counted
  rw [lines, bare, Stylesheet.counts_add_up utilities different]

/-! ## The two commands -/

/-- A scan finds no class twice. -/
theorem Findings.nodup_classes {patterns ignored : List Text} {found : Findings}
    (scanned : Findings.ofGlobs workspace patterns ignored = .ok found) :
    found.classes.Nodup := by
  obtain ⟨_, _, _, _, _, read⟩ := ofGlobs_eq_ok_iff.mp scanned
  obtain ⟨texts, _, rfl⟩ := ofPaths_eq_ok_iff.mp read
  exact nodup_distinct (texts.flatten.flatMap Candidate.extract)

theorem Selection.list_of_scanned {selection : Selection} {found : Findings}
    (scanned : Findings.ofGlobs workspace selection.inputs selection.ignore = .ok found) :
    (selection.list workspace).result = .ok () ∧
      (selection.list workspace).printed =
        (listing found.classes).entries.flatMap
          fun line => line.1 ++ ['\t'] ++ line.2 ++ ['\n'] := by
  rw [list, scanned]
  exact ⟨rfl, rfl⟩

/-- A build without an output prints the stylesheet of the scanned classes, and ends with
the counts of that. -/
theorem BuildOrder.build_of_scanned {order : BuildOrder} (printed : order.output? = none)
    {settings : Settings} (configured : order.settings workspace = .ok settings)
    {found : Findings}
    (scanned : Findings.ofGlobs workspace order.selection.inputs order.selection.ignore =
      .ok found) :
    let sheet := Stylesheet.ofClasses settings.utilities.extended found.classes
    (order.build workspace).result = .ok () ∧
      (order.build workspace).printed =
        stylesheetText settings.minify (sheet.render (.ofMinify settings.minify)) ∧
      (order.build workspace).notices.getLast? =
        some (.built found.fileCount sheet.ruleCount sheet.skipped) := by
  intro sheet
  have sameGlobs : order.ignoreGlobs = order.selection.ignore := by
    rw [ignoreGlobs, printed, Option.toList_none, List.append_nil]
  simp only [build, configured, sameGlobs, scanned, printed, List.getLast?_concat]
  exact ⟨trivial, rfl, rfl⟩

/-- A build whose settings cannot be had prints nothing. -/
theorem BuildOrder.printed_of_settings_error {order : BuildOrder} {fault : SettingsFault}
    (failed : order.settings workspace = .error fault) :
    (order.build workspace).printed = [] := by
  rw [build, failed]
  rfl

/-- **Listings and builds agree.** Where a selection can be scanned, its listing has a line
for exactly those scanned classes that depend on a variant, in ascending order and with
the selector that the class has alone. Under whatever settings, a printed build of the
selection has rules for listed classes only, each under the listed selector, and the
number of lines is that of its rules, of the classes skipped for another reason than a
missing state, and of the listed classes whose utility declares nothing. -/
theorem listing_agrees_with_builds {selection : Selection} {found : Findings}
    (scanned : Findings.ofGlobs workspace selection.inputs selection.ignore = .ok found) :
    ∃ lines : List (Text × Text),
      (selection.list workspace).result = .ok () ∧
      (selection.list workspace).printed =
        lines.flatMap (fun line => line.1 ++ ['\t'] ++ line.2 ++ ['\n']) ∧
      (lines.Pairwise fun earlier later => earlier.1.bytes < later.1.bytes) ∧
      (∀ className selector, (className, selector) ∈ lines ↔
        className ∈ found.classes ∧ (∃ variant, ClassName.variant? className = some variant) ∧
          Selector.ofClass? className = some selector) ∧
      ∀ order : BuildOrder, order.selection = selection → order.output? = none →
        (∀ fault, order.settings workspace = .error fault →
          (order.build workspace).printed = []) ∧
        ∀ settings, order.settings workspace = .ok settings →
          let sheet := Stylesheet.ofClasses settings.utilities.extended found.classes
          let stateless := found.classes.countP ClassName.lacksState
          (order.build workspace).result = .ok () ∧
          (order.build workspace).printed =
            stylesheetText settings.minify (sheet.render (.ofMinify settings.minify)) ∧
          (order.build workspace).notices.getLast? =
            some (.built found.fileCount sheet.ruleCount sheet.skipped) ∧
          (∀ className rule, (className, rule) ∈ sheet.rules.entries →
            (className, rule.selector) ∈ lines) ∧
          stateless ≤ sheet.skipped ∧
          lines.length = sheet.ruleCount + (sheet.skipped - stateless) +
            lines.countP fun line => ClassName.declaresNothing settings.utility? line.1 := by
  obtain ⟨succeeded, printed⟩ := Selection.list_of_scanned scanned
  refine ⟨(listing found.classes).entries, succeeded, printed,
    (listing found.classes).ascending.imp Text.bytes_lt_bytes, fun className selector => ?_,
    fun order same toPrint => ⟨fun fault => BuildOrder.printed_of_settings_error,
      fun settings configured => ?_⟩⟩
  · rw [mem_listing_iff]
    constructor
    · rintro ⟨listed, selected⟩
      obtain ⟨variant, depends, _⟩ := Option.map_eq_some_iff.mp selected
      exact ⟨listed, ⟨variant, depends⟩, selected⟩
    · rintro ⟨listed, _, selected⟩
      exact ⟨listed, selected⟩
  · subst same
    intro sheet stateless
    obtain ⟨built, text, counts⟩ := BuildOrder.build_of_scanned toPrint configured scanned
    have bound : stateless ≤ sheet.skipped := Stylesheet.countP_lacksState_le _ found.classes
    have total := size_listing_add_countP_lacksState settings.utilities.extended
      (Findings.nodup_classes scanned)
    rw [settings.get?_extended] at total
    refine ⟨built, text, counts, fun className rule => selector_mem_listing, bound, ?_⟩
    change _ + stateless = sheet.ruleCount + sheet.skipped + _ at total
    omega

/-- A page whose classes have all fates, and settings in which one utility declares
nothing. -/
def mixedSources : Workspace :=
  { tree := .directory
      [("a.html".toList, .file (FileTree.encode
          "class='ui-shut:blank ui-open:nope ui-:flex ui-open:block'".toList)),
        ("s.toml".toList, .file (FileTree.encode "utilities.blank = ';'".toList))] }

/-- A line for the only rule, one for one of the two skipped classes, and one for the
class that the settings leave without a declaration. -/
theorem listing_agrees_with_builds_mixed :
    let selection : Selection := { inputs := ["*.html".toList] }
    let order : BuildOrder := { selection, config? := some "s.toml".toList }
    ∃ lines : List (Text × Text),
      (selection.list mixedSources).printed =
        lines.flatMap (fun line => line.1 ++ ['\t'] ++ line.2 ++ ['\n']) ∧
      (order.build mixedSources).notices.getLast? = some (.built 1 1 2) ∧
      lines.length = 1 + (2 - 1) + lines.countP fun line => line.1 = "ui-shut:blank".toList := by
  intro selection order
  let classes := ["ui-shut:blank".toList, "ui-open:nope".toList, "ui-:flex".toList,
    "ui-open:block".toList]
  have scanned : (Findings.ofGlobs mixedSources selection.inputs selection.ignore).toOption =
      some ⟨classes, 1⟩ := by decide +kernel
  obtain ⟨lines, _, printed, _, listed, builds⟩ :=
    listing_agrees_with_builds (eq_ok_of_toOption scanned)
  have counted : (order.settings mixedSources).toOption.map (fun settings =>
      let sheet := Stylesheet.ofClasses settings.utilities.extended classes
      (sheet.ruleCount, sheet.skipped, classes.all fun className =>
        ClassName.declaresNothing settings.utility? className ==
          decide (className = "ui-shut:blank".toList))) = some (1, 2, true) := by decide +kernel
  obtain ⟨settings, configured, counts⟩ := Option.map_eq_some_iff.mp counted
  obtain ⟨rules, rest⟩ := Prod.mk.inj counts
  obtain ⟨skipped, bare⟩ := Prod.mk.inj rest
  obtain ⟨_, _, notice, _, _, count⟩ :=
    (builds order rfl rfl).2 settings (eq_ok_of_toOption configured)
  have stateless : classes.countP ClassName.lacksState = 1 := by decide +kernel
  refine ⟨lines, printed, by rw [notice, rules, skipped], ?_⟩
  rw [count, rules, skipped, stateless]
  refine congrArg (1 + (2 - 1) + ·) (List.countP_congr fun line among => ?_)
  have known : line.1 ∈ classes := ((listed line.1 line.2).mp among).1
  rw [eq_of_beq (List.all_eq_true.mp bare line.1 known)]

end StateSheet
