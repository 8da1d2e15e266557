import Mathlib.Data.List.Chain
import StateSheet.Command.Rebuilding
import StateSheet.Proofs.Command.Watching
import StateSheet.Proofs.Command.Output

/-!
# When a watch builds again

A watch builds again for an event that calls for it, unless it started or built again just
before (`Watch.reaction_eq_rebuild_iff`). An event does nothing else to the events behind it
(`Watch.step_cases`), so all that matters of a run are the times of its rebuilds.

These lie apart (`Watch.rebuilds_lie_apart`), and a change that comes at a quiet time is built
(`Watch.rebuilds_after_pause`). One that comes within the pause is not, nor later on its own.
Events that do not call for a rebuild leave no trace in a run (`Watch.rebuildTimes_filter`).
Those that touch only the output of the build are among them, so a watch does not keep itself
awake by what it writes (`own_output_rebuilds_nothing`).
-/

set_option autoImplicit false

namespace StateSheet

namespace Watch

variable {watch : Watch} {since : Nat} {event : Event} {events : List Event}

/-! ## Single events -/

/-- **A watch builds again for what calls for it**, but not within the pause. -/
theorem reaction_eq_rebuild_iff :
    watch.reaction since event = .rebuild ↔
      watch.calls event = true ∧ since + pause ≤ event.time := by
  have outside : ¬ event.time - since < pause ↔ since + pause ≤ event.time := by
    rw [pause]
    omega
  unfold reaction
  cases told : event.news with
  | failed reason => simp [calls, told]
  | changed paths =>
      rw [← outside]
      cases watch.calls event with
      | false => simp
      | true =>
          by_cases early : event.time - since < pause
          · simp [early]
          · simp [early]

/-- **What an event does.** The watch builds again, or it has last built when it had before. -/
theorem step_cases (watch : Watch) (since : Nat) (event : Event) :
    (watch.calls event = true ∧ since + pause ≤ event.time ∧
        watch.step since event = (event.time, .rebuild)) ∨
      (¬ (watch.calls event = true ∧ since + pause ≤ event.time) ∧
        ∃ other, other ≠ .rebuild ∧ watch.step since event = (since, other)) := by
  rw [← and_assoc, ← reaction_eq_rebuild_iff]
  unfold step
  cases watch.reaction since event with
  | rebuild => exact Or.inl ⟨rfl, rfl⟩
  | passOver => exact Or.inr ⟨nofun, .passOver, nofun, rfl⟩
  | report message => exact Or.inr ⟨nofun, .report message, nofun, rfl⟩

/-! ## Runs -/

/-- The times at which a watch builds again in a run. -/
def rebuildTimes (watch : Watch) (since : Nat) (events : List Event) : List Nat :=
  ((events.zip (watch.run since events)).filter (·.2 = .rebuild)).map (·.1.time)

theorem rebuildTimes_cons (watch : Watch) (since : Nat) (event : Event) (rest : List Event) :
    watch.rebuildTimes since (event :: rest) =
      if watch.calls event = true ∧ since + pause ≤ event.time then
        event.time :: watch.rebuildTimes event.time rest
      else watch.rebuildTimes since rest := by
  unfold rebuildTimes
  rw [run]
  rcases watch.step_cases since event with
    ⟨calls, late, built⟩ | ⟨idle, other, notRebuild, passed⟩
  · rw [built, if_pos ⟨calls, late⟩]
    simp
  · rw [passed, if_neg idle]
    simp [notRebuild]

/-- **Rebuilds lie apart**, and the first lies apart from the start. -/
theorem rebuilds_lie_apart (watch : Watch) (since : Nat) (events : List Event) :
    (since :: watch.rebuildTimes since events).IsChain
      fun earlier later => earlier + pause ≤ later := by
  induction events generalizing since with
  | nil => exact List.isChain_singleton since
  | cons event rest ih =>
      rw [rebuildTimes_cons]
      split
      · next built => exact List.isChain_cons_cons.mpr ⟨built.2, ih event.time⟩
      · exact ih since

/-- Of five changes two are built, one for the start and one for the pause behind it. -/
example :
    let changes := [150, 250, 300, 449, 450].map fun time => Event.mk time (.changed [])
    (Watch.mk none none).rebuildTimes 0 changes = [250, 450] := by
  decide

/-- **A change at a quiet time is built**: it is if the watch started, and all events before it
came, so long ago that the pause is over. -/
theorem rebuilds_after_pause (calls : watch.calls event = true)
    (started : since + pause ≤ event.time)
    (quiet : ∀ other ∈ events, other.time + pause ≤ event.time) (later : List Event) :
    event.time ∈ watch.rebuildTimes since (events ++ event :: later) := by
  induction events generalizing since with
  | nil =>
      rw [List.nil_append, rebuildTimes_cons, if_pos ⟨calls, started⟩]
      exact List.mem_cons_self
  | cons other rest ih =>
      obtain ⟨otherQuiet, restQuiet⟩ := List.forall_mem_cons.mp quiet
      rw [List.cons_append, rebuildTimes_cons]
      split
      · exact List.mem_cons_of_mem _ (ih otherQuiet restQuiet)
      · exact ih started restQuiet

/-- **Only events that call for a rebuild count.** A run without some of the others builds
again at the same times. -/
theorem rebuildTimes_filter (watch : Watch) {kept : Event → Bool}
    (keeps : ∀ event, watch.calls event = true → kept event = true) (since : Nat)
    (events : List Event) :
    watch.rebuildTimes since (events.filter kept) = watch.rebuildTimes since events := by
  induction events generalizing since with
  | nil => rfl
  | cons event rest ih =>
      rw [rebuildTimes_cons, List.filter_cons]
      split
      · rw [rebuildTimes_cons, ih, ih]
      · next dropped =>
          have idle : ¬ (watch.calls event = true ∧ since + pause ≤ event.time) := by
            intro built
            exact dropped (keeps event built.1)
          rw [if_neg idle, ih]

/-- A run of events that do not call for a rebuild has none. -/
theorem rebuildTimes_eq_nil (idle : ∀ event ∈ events, watch.calls event = false) :
    watch.rebuildTimes since events = [] := by
  have noneKept : events.filter watch.calls = [] :=
    List.filter_eq_nil_iff.mpr fun event member => by simp [idle event member]
  rw [← watch.rebuildTimes_filter (fun _ calls => calls) since events, noneKept]
  rfl

end Watch

/-! ## The output of the build -/

/-- Does an event tell of changes to one path, and to no other? -/
def Event.touchesOnly (path : Path) (event : Event) : Bool :=
  match event.news with
  | .changed paths => !paths.isEmpty && paths.all (· = path)
  | .failed _ => false

/-- What is passed over for one path is passed over if that path is told of more than once. -/
theorem Watching.ignoresChange_of_alike {ignore? : Option Globs} {directory? : Option Path}
    {path : Path} {paths : List Path} (nonempty : paths.isEmpty = false)
    (alike : ∀ told ∈ paths, told = path)
    (passed : ignoresChange ignore? directory? [path] = true) :
    ignoresChange ignore? directory? paths = true := by
  cases ignore? with
  | none => cases passed
  | some ignore =>
      have ignored : ignoresPath ignore directory? path = true := by
        simpa [ignoresChange] using passed
      have allIgnored : paths.all (ignoresPath ignore directory?) = true := by
        rw [List.all_eq_true]
        intro told listed
        rw [alike told listed]
        exact ignored
      rw [ignoresChange, nonempty, allIgnored]
      rfl

/-- Where a change to a path is passed over, no event that touches it alone calls for a
rebuild. -/
theorem Watch.calls_eq_false {watch : Watch} {path : Path}
    (passed : Watching.ignoresChange watch.ignore? watch.directory? [path] = true) {event : Event}
    (touches : event.touchesOnly path = true) : watch.calls event = false := by
  unfold Event.touchesOnly at touches
  unfold calls
  cases told : event.news with
  | failed reason => rfl
  | changed paths =>
      rw [told, Bool.and_eq_true, Bool.not_eq_true', List.all_eq_true] at touches
      have alike : ∀ told ∈ paths, told = path :=
        fun told listed => of_decide_eq_true (touches.2 told listed)
      exact congrArg not (Watching.ignoresChange_of_alike touches.1 alike passed)

/-- A build that succeeds has ignore globs that can be read. -/
theorem BuildOrder.exists_ignore_of_build {order : BuildOrder} {workspace : Workspace}
    {output : Text} (given : order.output? = some output)
    (succeeded : (order.build workspace).result = .ok ()) :
    ∃ ignore, Globs.read order.ignoreGlobs = .ok ignore := by
  obtain ⟨⟨found, scanned⟩, _⟩ := order.scanned_of_build given succeeded
  obtain ⟨_, ignore, _, ignoreRead, _⟩ := Findings.ofGlobs_eq_ok_iff.mp scanned
  exact ⟨ignore, ignoreRead⟩

section

variable (order : BuildOrder) {output : Text} (given : order.output? = some output)
  {workspace : Workspace} (succeeded : (order.build workspace).result = .ok ())
  {directory : Path} (absolute : directory.isAbsolute = true)
  (relative : (⟨output⟩ : Path).isAbsolute = false)
  (plain : ∀ c ∈ output, Glob.isOpening c = false)
  (nothingToTrim : (⟨output⟩ : Path).trimmed = ⟨output⟩)
  (named : (⟨output⟩ : Path).endsInParent = false)

include given succeeded absolute relative plain nothingToTrim named

/-- The watch behind a first build that succeeds passes over a change to its output. -/
theorem BuildOrder.watchFrom_ignores_output :
    Watching.ignoresChange (order.watchFrom (some directory)).ignore? (some directory)
      [directory.append ⟨output⟩] = true := by
  obtain ⟨ignore, valid⟩ := BuildOrder.exists_ignore_of_build given succeeded
  have globs : (order.watchFrom (some directory)).ignore? = some ignore :=
    congrArg Except.toOption valid
  rw [globs, Watching.ignoresChange_append_iff ignore absolute relative, nothingToTrim]
  exact Or.inr (order.ignoreGlobs_match_output given plain named valid)

/-- **What a watch writes does not keep it awake.** Behind a first build that succeeds, a run
builds again at the times at which it would if no event touched the output alone. So if all of
them do, it never builds again. The path of the output must open nothing as a glob, have
nothing to trim at its ends and name a file. -/
theorem own_output_rebuilds_nothing (since : Nat) (events : List Event) :
    let watch := order.watchFrom (some directory)
    let own := fun event : Event => event.touchesOnly (directory.append ⟨output⟩)
    watch.rebuildTimes since (events.filter (!own ·)) = watch.rebuildTimes since events ∧
      ((∀ event ∈ events, own event = true) → watch.rebuildTimes since events = []) := by
  intro watch own
  have passed := order.watchFrom_ignores_output given succeeded absolute relative plain
    nothingToTrim named
  have idle : ∀ event, own event = true → watch.calls event = false :=
    fun event touches => Watch.calls_eq_false passed touches
  constructor
  · refine watch.rebuildTimes_filter (fun event calls => ?_) since events
    rw [Bool.not_eq_true', ← Bool.not_eq_true]
    intro touches
    rw [idle event touches] at calls
    cases calls
  · intro allOwn
    exact Watch.rebuildTimes_eq_nil fun event member => idle event (allOwn event member)

end

/-- A change to a source between two to the output is built, and at once. -/
example :
    let order : BuildOrder := { output? := some "dist/x.css".toList }
    let changes := [(250, "/work/dist/x.css"), (260, "/work/a.html"), (500, "/work/dist/x.css")]
    (order.watchFrom (some ⟨"/work".toList⟩)).rebuildTimes 0
      (changes.map fun change => ⟨change.1, .changed [⟨change.2.toList⟩]⟩) = [260] := by
  decide +kernel

end StateSheet
