import StateSheet.Proofs.Command.Effects
import StateSheet.Proofs.Stylesheet.Blanks

/-!
# Builds, minified or not

Minified or not, a build has the same settings but for the layout, scans the same classes and
makes the same rules. So it has a stylesheet in both cases or in none, and without their blanks
the two are the same (`BuildOrder.stylesheet_withMinify`). Whether an output can be written does
not depend on what is written, so the build also fails in both cases or in none, and then for
the same reason (`BuildOrder.FailsWith.withMinify`).
-/

set_option autoImplicit false

namespace StateSheet

namespace BuildOrder

variable {order : BuildOrder} {workspace : Workspace}

/-- A build order, to be minified or not. -/
def withMinify (order : BuildOrder) (minify : Bool) : BuildOrder := { order with minify }

/-- Whether a build is minified makes no difference to its settings but for the layout. -/
theorem settings_withMinify (order : BuildOrder) (workspace : Workspace) :
    (∃ fault, ∀ minify, (order.withMinify minify).settings workspace = .error fault) ∨
      ∃ settings : Settings, ∀ minify, ∃ chosen,
        (order.withMinify minify).settings workspace = .ok { settings with minify := chosen } := by
  cases given : order.config? with
  | none =>
      refine Or.inr ⟨{}, fun minify => ⟨minify, ?_⟩⟩
      simp only [BuildOrder.settings, withMinify, given]
  | some path =>
      cases loaded : Settings.load workspace ⟨path⟩ with
      | error fault =>
          refine Or.inl ⟨fault, fun minify => ?_⟩
          simp only [BuildOrder.settings, withMinify, given, loaded]
          rfl
      | ok settings =>
          refine Or.inr ⟨settings, fun minify => ⟨settings.minify || minify, ?_⟩⟩
          simp only [BuildOrder.settings, withMinify, given, loaded]
          rfl

/-- **Minified or not, a build has no stylesheet for the same reason, or stylesheets that
are the same without blanks.** -/
theorem stylesheet_withMinify (order : BuildOrder) (workspace : Workspace) :
    (∃ fault, ∀ minify, (order.withMinify minify).stylesheet workspace = .error fault) ∨
      ∃ tight, ∀ minify, ∃ css, (order.withMinify minify).stylesheet workspace = .ok css ∧
        css.withoutBlanks = tight := by
  rcases order.settings_withMinify workspace with ⟨fault, failed⟩ | ⟨settings, configured⟩
  · refine Or.inl ⟨.settings fault, fun minify => ?_⟩
    rw [stylesheet, failed minify]
  · cases scanned : Findings.ofGlobs workspace order.selection.inputs order.ignoreGlobs with
    | error fault =>
        refine Or.inl ⟨.scan fault, fun minify => ?_⟩
        obtain ⟨chosen, same⟩ := configured minify
        exact stylesheet_of_scan_error same scanned
    | ok found =>
        let sheet := Stylesheet.ofClasses settings.utilities.extended found.classes
        refine Or.inr ⟨banner.withoutBlanks ++ sheet.rules.values.flatMap Rule.tight,
          fun minify => ?_⟩
        obtain ⟨chosen, same⟩ := configured minify
        refine ⟨stylesheetText chosen (sheet.render (.ofMinify chosen)),
          stylesheet_of_scanned same scanned, ?_⟩
        rw [withoutBlanks_stylesheetText, Stylesheet.withoutBlanks_render]

/-- **Minified or not, a build fails for the same reason.** -/
theorem FailsWith.withMinify {fault : CommandFault} {first : Bool}
    (fails : (order.withMinify first).FailsWith workspace fault) (second : Bool) :
    (order.withMinify second).FailsWith workspace fault := by
  rcases order.stylesheet_withMinify workspace with ⟨other, missing⟩ | ⟨_, made⟩
  · rw [fails.unique (.stylesheet (missing first))]
    exact .stylesheet (missing second)
  · obtain ⟨css, secondMade, _⟩ := made second
    cases fails with
    | stylesheet missing =>
        obtain ⟨_, firstMade, _⟩ := made first
        cases missing.symm.trans firstMade
    | unwritable given _ failed =>
        rw [Workspace.writeText_eq_error_iff] at failed
        exact .unwritable given secondMade (Workspace.writeText_eq_error_iff.mpr failed)

/-- A text is what a build has put out: the text that it printed, or the text in the file
that the path of its output leads to. -/
def HasPut (order : BuildOrder) (outcome : Outcome) (css : Text) : Prop :=
  match order.output? with
  | none => outcome.printed = css
  | some output => outcome.workspace.find ⟨output⟩ = .ok (.file (FileTree.encode css))

theorem Puts.hasPut {css : Text} {outcome : Outcome} (put : order.Puts workspace css outcome) :
    order.HasPut outcome css := by
  unfold HasPut
  cases put with
  | printed noOutput _ shown =>
      rw [noOutput]
      exact shown
  | written given done _ =>
      obtain ⟨_, place, resolved, held, _⟩ := Workspace.rewritten_of_writeText done
      rw [given]
      exact Workspace.find_eq_ok_iff.mpr ⟨place, resolved, held⟩

end BuildOrder

/-- **Minifying changes blanks only.** Minified or not, a build fails with the same fault, or
it succeeds and what it puts out is the same without blanks. And for any settings and
classes the stylesheets in both layouts write the same rules, with the same counts. -/
theorem minifying_changes_blanks_only (order : BuildOrder) (workspace : Workspace)
    (settings : Settings) (classes : List Text) :
    let minified := order.withMinify true
    let pretty := order.withMinify false
    ((∃ fault, (minified.build workspace).result = .error fault ∧
        (pretty.build workspace).result = .error fault) ∨
      (minified.build workspace).result = .ok () ∧ (pretty.build workspace).result = .ok () ∧
        ∃ tight loose, minified.HasPut (minified.build workspace) tight ∧
          pretty.HasPut (pretty.build workspace) loose ∧
            tight.withoutBlanks = loose.withoutBlanks) ∧
      let tight := Generation.ofClasses { settings with minify := true } classes
      let loose := Generation.ofClasses { settings with minify := false } classes
      tight.ruleCount = loose.ruleCount ∧ tight.skipped = loose.skipped ∧
        ∃ rules : List Rule, rules.length = loose.ruleCount ∧
          tight.css = rules.flatMap Layout.minified.rule ∧
          loose.css = ['\n'].intercalate (rules.map Layout.pretty.rule) := by
  intro minified pretty
  refine ⟨?_, Generation.ofClasses_layouts settings classes⟩
  by_cases failing : ∃ fault, minified.FailsWith workspace fault
  · obtain ⟨fault, fails⟩ := failing
    exact Or.inl ⟨fault, fails.result, (fails.withMinify false).result⟩
  · have never : ∀ fault, ¬ minified.FailsWith workspace fault := not_exists.mp failing
    have neverLoose : ∀ fault, ¬ pretty.FailsWith workspace fault := by
      intro fault fails
      exact never fault (fails.withMinify true)
    rcases order.stylesheet_withMinify workspace with ⟨fault, missing⟩ | ⟨_, made⟩
    · exact absurd (.stylesheet (missing true)) (never fault)
    · obtain ⟨tight, tightMade, tightSame⟩ := made true
      obtain ⟨loose, looseMade, looseSame⟩ := made false
      obtain ⟨succeeded, put⟩ := BuildOrder.puts_of_not_failsWith tightMade never
      obtain ⟨succeededToo, putLoose⟩ := BuildOrder.puts_of_not_failsWith looseMade neverLoose
      exact Or.inr ⟨succeeded, succeededToo, tight, loose, put.hasPut, putLoose.hasPut,
        tightSame.trans looseSame.symm⟩

end StateSheet
