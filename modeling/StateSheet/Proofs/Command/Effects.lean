import StateSheet.Command.Run
import StateSheet.Proofs.FileTree.Writing

/-!
# What builds leave behind

A build first makes its stylesheet, from its settings and from the classes of its scan,
and only then prints or writes it. So it comes to one of four things: it fails without a
stylesheet, prints the stylesheet, fails to write it, or writes it (`BuildOrder.build_cases`).

In each case it is all or nothing (`build_is_all_or_nothing`). A build that fails leaves the
workspace as it was and prints nothing. A build that succeeds prints its stylesheet and leaves
the workspace as it was, or it writes the stylesheet to its output, changes nothing else and
prints nothing.
-/

set_option autoImplicit false

namespace StateSheet

namespace BuildOrder

/-- The stylesheet of a build, or why it has none. -/
def stylesheet (order : BuildOrder) (workspace : Workspace) : Except CommandFault Text :=
  match order.settings workspace with
  | .error fault => .error (.settings fault)
  | .ok settings =>
      match Findings.ofGlobs workspace order.selection.inputs order.ignoreGlobs with
      | .error fault => .error (.scan fault)
      | .ok found =>
          .ok (stylesheetText settings.minify (Generation.ofClasses settings found.classes).css)

section

variable {order : BuildOrder} {workspace : Workspace} {settings : Settings}

theorem stylesheet_of_scan_error (configured : order.settings workspace = .ok settings)
    {fault : ScanFault}
    (failed : Findings.ofGlobs workspace order.selection.inputs order.ignoreGlobs =
      .error fault) : order.stylesheet workspace = .error (.scan fault) := by
  simp only [stylesheet, configured, failed]

theorem stylesheet_of_scanned (configured : order.settings workspace = .ok settings)
    {found : Findings}
    (scanned : Findings.ofGlobs workspace order.selection.inputs order.ignoreGlobs =
      .ok found) :
    order.stylesheet workspace =
      .ok (stylesheetText settings.minify (Generation.ofClasses settings found.classes).css) := by
  simp only [stylesheet, configured, scanned]

end

/-- A build fails with this fault: it has no stylesheet, or an output that cannot be
written. -/
inductive FailsWith (order : BuildOrder) (workspace : Workspace) : CommandFault → Prop where
  | stylesheet {fault : CommandFault} :
      order.stylesheet workspace = .error fault → FailsWith order workspace fault
  | unwritable {output css : Text} {fault : AccessFault} :
      order.output? = some output → order.stylesheet workspace = .ok css →
        workspace.writeText ⟨output⟩ css = .error fault →
          FailsWith order workspace (.unwritable ⟨output⟩ fault)

/-- A build leaves this behind when it has a stylesheet and does not fail: the workspace with
the stylesheet written to its output, or the stylesheet printed. -/
inductive Puts (order : BuildOrder) (workspace : Workspace) (css : Text) : Outcome → Prop where
  | printed {outcome : Outcome} : order.output? = none → outcome.workspace = workspace →
      outcome.printed = css → Puts order workspace css outcome
  | written {outcome : Outcome} {output : Text} : order.output? = some output →
      workspace.writeText ⟨output⟩ css = .ok outcome.workspace → outcome.printed = [] →
        Puts order workspace css outcome

/-- **What a build comes to.** It fails and leaves everything as it was, or it puts out its
stylesheet. -/
theorem build_cases (order : BuildOrder) (workspace : Workspace) :
    (∃ fault, order.FailsWith workspace fault ∧
        (order.build workspace).result = .error fault ∧
          (order.build workspace).workspace = workspace ∧ (order.build workspace).printed = []) ∨
      ∃ css, order.stylesheet workspace = .ok css ∧ (order.build workspace).result = .ok () ∧
        order.Puts workspace css (order.build workspace) := by
  rw [build]
  cases configured : order.settings workspace with
  | error fault =>
      exact Or.inl ⟨_, .stylesheet (by rw [stylesheet, configured]), rfl, rfl, rfl⟩
  | ok settings =>
      dsimp only
      cases scanned : Findings.ofGlobs workspace order.selection.inputs order.ignoreGlobs with
      | error fault =>
          exact Or.inl ⟨_, .stylesheet (stylesheet_of_scan_error configured scanned), rfl, rfl, rfl⟩
      | ok found =>
          dsimp only
          have made := stylesheet_of_scanned configured scanned
          cases given : order.output? with
          | none => exact Or.inr ⟨_, made, rfl, .printed given rfl rfl⟩
          | some output =>
              dsimp only
              cases outcome : workspace.writeText ⟨output⟩ (stylesheetText settings.minify
                  (Generation.ofClasses settings found.classes).css) with
              | error fault => exact Or.inl ⟨_, .unwritable given made outcome, rfl, rfl, rfl⟩
              | ok written => exact Or.inr ⟨_, made, rfl, .written given outcome rfl⟩

variable {order : BuildOrder} {workspace : Workspace} {fault : CommandFault}

theorem FailsWith.unique (fails : order.FailsWith workspace fault) {other : CommandFault}
    (failsToo : order.FailsWith workspace other) : fault = other := by
  cases fails with
  | stylesheet missing =>
      cases failsToo with
      | stylesheet missingToo => exact Except.error.inj (missing.symm.trans missingToo)
      | unwritable _ made _ => cases missing.symm.trans made
  | unwritable given made failed =>
      cases failsToo with
      | stylesheet missing => cases missing.symm.trans made
      | unwritable givenToo madeToo failedToo =>
          cases given.symm.trans givenToo
          cases made.symm.trans madeToo
          cases failed.symm.trans failedToo
          rfl

theorem Puts.not_failsWith {css : Text} {outcome : Outcome}
    (put : order.Puts workspace css outcome) (made : order.stylesheet workspace = .ok css) :
    ¬ order.FailsWith workspace fault := by
  intro fails
  cases fails with
  | stylesheet missing => cases missing.symm.trans made
  | unwritable given madeToo failed =>
      cases made.symm.trans madeToo
      cases put with
      | printed noOutput _ _ => cases noOutput.symm.trans given
      | written givenToo done _ =>
          cases given.symm.trans givenToo
          cases failed.symm.trans done

/-- A build that has a stylesheet and does not fail has put it out. -/
theorem puts_of_not_failsWith {css : Text} (made : order.stylesheet workspace = .ok css)
    (never : ∀ fault, ¬ order.FailsWith workspace fault) :
    (order.build workspace).result = .ok () ∧
      order.Puts workspace css (order.build workspace) := by
  rcases order.build_cases workspace with ⟨fault, fails, _⟩ | ⟨other, madeToo, succeeded, put⟩
  · exact absurd fails (never fault)
  · cases made.symm.trans madeToo
    exact ⟨succeeded, put⟩

/-- A build fails with the fault that it fails with. -/
theorem FailsWith.result (fails : order.FailsWith workspace fault) :
    (order.build workspace).result = .error fault := by
  rcases order.build_cases workspace with ⟨other, failsToo, failed, _⟩ | ⟨css, made, _, put⟩
  · rw [failed, fails.unique failsToo]
  · exact absurd fails (put.not_failsWith made)

end BuildOrder

/-- **A build is all or nothing.** If it fails, be it for its settings, for its globs or for
its output, the workspace is as it was and nothing is printed. If it succeeds, it has a
stylesheet. Without an output the workspace is as it was and the stylesheet is printed. With
one nothing is printed, the path of the output leads to a file that holds the bytes of the
stylesheet, and whatever lies at any other place is as it was. -/
theorem build_is_all_or_nothing (order : BuildOrder) (workspace : Workspace) :
    let outcome := order.build workspace
    (∃ fault, outcome.result = .error fault ∧ order.FailsWith workspace fault ∧
        outcome.workspace = workspace ∧ outcome.printed = []) ∨
      ∃ css, outcome.result = .ok () ∧ order.stylesheet workspace = .ok css ∧
        (order.output? = none ∧ outcome.workspace = workspace ∧ outcome.printed = css ∨
          ∃ output place, order.output? = some output ∧ outcome.printed = [] ∧
            outcome.workspace.directory = workspace.directory ∧
            outcome.workspace.resolve ⟨output⟩ = .ok place ∧
            outcome.workspace.tree.at? place = some (.file (FileTree.encode css)) ∧
            ∀ other, other = place ∨ outcome.workspace.tree.contentAt? other =
              workspace.tree.contentAt? other) := by
  intro outcome
  rcases order.build_cases workspace with ⟨fault, fails, failed, same, silent⟩ |
    ⟨css, made, succeeded, put⟩
  · exact Or.inl ⟨fault, failed, fails, same, silent⟩
  · refine Or.inr ⟨css, succeeded, made, ?_⟩
    cases put with
    | printed noOutput same shown => exact Or.inl ⟨noOutput, same, shown⟩
    | written given done silent =>
        obtain ⟨sameDirectory, place, resolved, held, others⟩ :=
          Workspace.rewritten_of_writeText done
        exact Or.inr ⟨_, place, given, silent, sameDirectory, resolved, held, others⟩

end StateSheet
