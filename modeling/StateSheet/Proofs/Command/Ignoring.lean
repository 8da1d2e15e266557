import StateSheet.Proofs.Command.Listing
import StateSheet.Proofs.Command.Minified
import StateSheet.Proofs.Scan.Ignoring

/-!
# Builds with an output

A build that succeeds has settings and has scanned its inputs, puts out the stylesheet of the
classes that it found, and reports the counts of that (`BuildOrder.delivers_of_result`). An
output is one more ignore glob and nothing else to the settings and the scan. So a build
that is given one puts out no rule that it does not put out without, and its counts are not
higher (`BuildOrder.delivers_no_more`).

This is so since ignore globs only remove: more of them leave fewer files, fewer classes, fewer
rules and fewer skipped classes (`ignoring_only_removes`).
-/

set_option autoImplicit false

namespace StateSheet

variable {workspace : Workspace} {order : BuildOrder}

/-- The stylesheet of classes under some settings. -/
def Settings.sheetOf (settings : Settings) (classes : List Text) : Stylesheet :=
  Stylesheet.ofClasses settings.utilities.extended classes

/-- Under some settings, findings come to no more than others: not to more files, to some of the
rules in the same order, and not to more rules or skipped classes. -/
structure Settings.ComesToNoMore (settings : Settings) (left found : Findings) : Prop where
  files : left.fileCount ≤ found.fileCount
  rules : (settings.sheetOf left.classes).rules.entries.Sublist
    (settings.sheetOf found.classes).rules.entries
  ruleCount : (settings.sheetOf left.classes).ruleCount ≤ (settings.sheetOf found.classes).ruleCount
  skipped : (settings.sheetOf left.classes).skipped ≤ (settings.sheetOf found.classes).skipped

/-- Some of the classes, each once, come to no more than all of them. -/
theorem Settings.ComesToNoMore.of_subset (settings : Settings) {left found : Findings}
    (once : left.classes.Nodup) (among : left.classes ⊆ found.classes)
    (files : left.fileCount ≤ found.fileCount) : settings.ComesToNoMore left found := by
  have rules := Stylesheet.rules_sublist settings.utilities.extended among
  exact ⟨files, rules, rules.length_le, Stylesheet.skipped_le _ once among⟩

namespace BuildOrder

/-- A build order with another output, or without one. -/
def withOutput (order : BuildOrder) (output? : Option Text) : BuildOrder := { order with output? }

/-- A build under these settings, with these findings, succeeds: it puts out the stylesheet of
the classes found and reports how many files it read, and what the stylesheet counts. -/
structure Delivers (order : BuildOrder) (workspace : Workspace) (settings : Settings)
    (found : Findings) : Prop where
  configured : order.settings workspace = .ok settings
  scanned : Findings.ofGlobs workspace order.selection.inputs order.ignoreGlobs = .ok found
  succeeded : (order.build workspace).result = .ok ()
  put : order.HasPut (order.build workspace) (stylesheetText settings.minify
    ((settings.sheetOf found.classes).render (.ofMinify settings.minify)))
  reported : (order.build workspace).notices.getLast? =
    some (.built found.fileCount (settings.sheetOf found.classes).ruleCount
      (settings.sheetOf found.classes).skipped)

/-- A build ends with its counts unless its output cannot be written. -/
theorem reported_of_result {settings : Settings}
    (configured : order.settings workspace = .ok settings) {found : Findings}
    (scanned : Findings.ofGlobs workspace order.selection.inputs order.ignoreGlobs = .ok found)
    (succeeded : (order.build workspace).result = .ok ()) :
    (order.build workspace).notices.getLast? =
      some (.built found.fileCount (settings.sheetOf found.classes).ruleCount
        (settings.sheetOf found.classes).skipped) := by
  simp only [build, configured, scanned] at succeeded ⊢
  split
  · exact List.getLast?_concat
  · rename_i output given
    simp only [given] at succeeded
    split
    · rename_i fault unwritable
      rw [unwritable] at succeeded
      cases succeeded
    · exact List.getLast?_concat

/-- **A build that succeeds delivers what it found.** -/
theorem delivers_of_result (succeeded : (order.build workspace).result = .ok ()) :
    ∃ settings found, order.Delivers workspace settings found := by
  rcases order.build_cases workspace with ⟨fault, _, failed, _⟩ | ⟨css, made, _, put⟩
  · cases succeeded.symm.trans failed
  · unfold stylesheet at made
    split at made
    · cases made
    · rename_i settings configured
      split at made
      · cases made
      · rename_i found scanned
        cases made
        exact ⟨settings, found, configured, scanned, succeeded, put.hasPut,
          reported_of_result configured scanned succeeded⟩

/-- **With an output a build delivers no more than without.** -/
theorem delivers_no_more {output : Text}
    (printed : ((order.withOutput none).build workspace).result = .ok ())
    (written : ((order.withOutput (some output)).build workspace).result = .ok ()) :
    ∃ settings found left, (order.withOutput none).Delivers workspace settings found ∧
      (order.withOutput (some output)).Delivers workspace settings left ∧
      settings.ComesToNoMore left found := by
  obtain ⟨settings, found, delivers⟩ := delivers_of_result printed
  obtain ⟨otherSettings, left, deliversLess⟩ := delivers_of_result written
  -- The settings of a build do not depend on its output.
  cases delivers.configured.symm.trans deliversLess.configured
  have fewer : (order.withOutput none).ignoreGlobs ⊆
      (order.withOutput (some output)).ignoreGlobs :=
    List.append_subset.mpr ⟨List.subset_append_left _ _, List.nil_subset _⟩
  obtain ⟨among, files⟩ := Findings.ofGlobs_mono fewer delivers.scanned deliversLess.scanned
  have once := Findings.nodup_classes deliversLess.scanned
  exact ⟨settings, found, left, delivers, deliversLess, .of_subset settings once among files⟩

end BuildOrder

/-- **Ignoring only removes.** If every ignore glob of a scan is one of another scan as well,
every path that the other one collects has the components of a path that the first one
collects. Where both scans succeed, as they do if all walked paths are found, the other one
finds some of the classes and counts no more files. If neither has an ignore glob that the other
one has not, both find the same, whatever the order of the globs and their repetitions.

So a build that is given an output puts out some of the rules that it puts out without, in the
same order, and counts no more rules, skipped classes or files. -/
theorem ignoring_only_removes {patterns ignored more : List Text}
    (valid : ∀ pattern ∈ patterns, ∃ glob, Globs.IsRead pattern glob)
    (moreValid : ∀ pattern ∈ more, ∃ glob, Globs.IsRead pattern glob) (fewer : ignored ⊆ more)
    (workspace : Workspace) :
    (∃ paths kept, Collects workspace patterns ignored paths ∧
        Collects workspace patterns more kept ∧
        ∀ path ∈ kept, ∃ other ∈ paths, other.components = path.components) ∧
      (∀ found left, Findings.ofGlobs workspace patterns ignored = .ok found →
        Findings.ofGlobs workspace patterns more = .ok left →
          left.classes ⊆ found.classes ∧ left.fileCount ≤ found.fileCount) ∧
      (patterns ≠ [] → (∀ root ∈ patternRoots patterns, WalkFinds workspace root) →
        (∃ found, Findings.ofGlobs workspace patterns ignored = .ok found) ∧
          ∃ left, Findings.ofGlobs workspace patterns more = .ok left) ∧
      (more ⊆ ignored →
        Findings.ofGlobs workspace patterns more = Findings.ofGlobs workspace patterns ignored) ∧
      ∀ (order : BuildOrder) (output : Text),
        ((order.withOutput none).build workspace).result = .ok () →
        ((order.withOutput (some output)).build workspace).result = .ok () →
          ∃ settings found left, (order.withOutput none).Delivers workspace settings found ∧
            (order.withOutput (some output)).Delivers workspace settings left ∧
            settings.ComesToNoMore left found := by
  have ignoredValid : ∀ pattern ∈ ignored, ∃ glob, Globs.IsRead pattern glob :=
    fun pattern member => moreValid pattern (fewer member)
  refine ⟨?_, ?_, ?_, ?_, fun order output => BuildOrder.delivers_no_more⟩
  · obtain ⟨paths, collects⟩ : ∃ paths, Collects workspace patterns ignored paths :=
      exists_collects_iff.mpr ⟨valid, ignoredValid⟩
    obtain ⟨kept, collectsLess⟩ : ∃ kept, Collects workspace patterns more kept :=
      exists_collects_iff.mpr ⟨valid, moreValid⟩
    refine ⟨paths, kept, collects, collectsLess, fun path member => ?_⟩
    exact List.mem_map.mp
      ((collects.subperm fewer collectsLess).subset (List.mem_map_of_mem member))
  · intro found left scanned scannedLess
    exact Findings.ofGlobs_mono fewer scanned scannedLess
  · intro given finds
    rw [Findings.exists_ofGlobs_iff finds, Findings.exists_ofGlobs_iff finds]
    exact ⟨⟨given, valid, ignoredValid⟩, given, valid, moreValid⟩
  · exact Findings.ofGlobs_congr ignoredValid fewer

/-- Two roots with a file below both, and an ignore glob that matches only one of the spellings
that the file has: the file is collected from the other root, and nothing else is. And a build
that is to write one of the two pages, which it passes over then. -/
theorem ignoring_only_removes_one_spelling :
    let workspace : Workspace :=
      { tree := .directory [("src".toList, .directory
          [("a.html".toList, .file (FileTree.encode "class='ui-open:block'".toList)),
            ("sub".toList, .directory
              [("b.html".toList, .file (FileTree.encode "class='ui-shut:flex'".toList))])])] }
    let patterns := ["src/**/*.html".toList, "src//sub/*.html".toList]
    let more := ["src/sub/*".toList, "src/a.html".toList]
    let order : BuildOrder := { selection := { inputs := ["src/**/*.html".toList] } }
    Collects workspace patterns [] [⟨"src/a.html".toList⟩, ⟨"src/sub/b.html".toList⟩] ∧
      Collects workspace patterns more [⟨"src//sub/b.html".toList⟩] ∧
      (∃ found left, Findings.ofGlobs workspace patterns [] = .ok found ∧
        Findings.ofGlobs workspace patterns more = .ok left ∧ left.classes ⊆ found.classes) ∧
      ∃ settings found left, (order.withOutput none).Delivers workspace settings found ∧
        (order.withOutput (some "src/a.html".toList)).Delivers workspace settings left ∧
        settings.ComesToNoMore left found := by
  intro workspace patterns more order
  have valid : ∀ pattern ∈ patterns, ∃ glob, Globs.IsRead pattern glob :=
    Globs.valid_of_toOption (by decide +kernel)
  have moreValid : ∀ pattern ∈ more, ∃ glob, Globs.IsRead pattern glob :=
    Globs.valid_of_toOption (by decide +kernel)
  have distinct : workspace.tree.hasDistinctNames = true := by decide +kernel
  have fit : ∀ pattern ∈ patterns, (workspace.find (Glob.root pattern)).toOption.all
      (Workspace.fits (Glob.root pattern)) = true := by decide +kernel
  have finds : ∀ root ∈ patternRoots patterns, WalkFinds workspace root := by
    intro root member
    obtain ⟨pattern, among, rfl⟩ := exists_pattern_of_mem_patternRoots member
    exact WalkFinds.of_fits distinct (fit pattern among)
  obtain ⟨_, fewer, succeed, _, builds⟩ :=
    ignoring_only_removes valid moreValid (List.nil_subset more) workspace
  obtain ⟨⟨found, scanned⟩, left, scannedLess⟩ := succeed (List.cons_ne_nil _ _) finds
  have printed : ((order.withOutput none).build workspace).result.toOption = some () := by
    decide +kernel
  have written : ((order.withOutput (some "src/a.html".toList)).build workspace).result.toOption =
      some () := by decide +kernel
  have compared :=
    builds order "src/a.html".toList (eq_ok_of_toOption printed) (eq_ok_of_toOption written)
  refine ⟨.of_ascending rfl (by decide) (by decide +kernel),
    .of_ascending rfl (by decide) (by decide +kernel), ?_, compared⟩
  exact ⟨found, left, scanned, scannedLess, (fewer found left scanned scannedLess).1⟩

end StateSheet
