import StateSheet.Command.Run

/-!
# Rebuilding

What a watch does about the news that reach it behind its first build. Changes that
are passed over as a whole do nothing, and nor do changes that come too soon after
the last rebuild. Any other change makes the watch build again. A failure to notice
changes is reported, and so is a build that fails. The watch goes on after both.

Times are milliseconds of a clock that never goes back.
-/

set_option autoImplicit false

namespace StateSheet

/-- What a watch is told. -/
inductive News where
  /-- Something changed at these paths. -/
  | changed (paths : List Path)
  /-- Changes could not be noticed. -/
  | failed (reason : Text)
deriving DecidableEq, Repr

/-- News, and when they are taken up. -/
structure Event where
  time : Nat
  news : News
deriving DecidableEq, Repr

/-- What a watch does about an event. -/
inductive Reaction where
  | passOver
  | report (message : Text)
  | rebuild
deriving DecidableEq, Repr

/-- What a watch goes by: the ignore globs, if they are globs, and the working
directory, if it is known. -/
structure Watch where
  ignore? : Option Globs
  directory? : Option Path

/-- The watch of a build from a working directory. -/
def BuildOrder.watchFrom (order : BuildOrder) (directory? : Option Path) : Watch where
  ignore? := (Globs.read order.ignoreGlobs).toOption
  directory?

/-- The message that reports a build that fails while watching. -/
def CommandFault.rebuildMessage (fault : CommandFault) : Text :=
  "build failed: ".toList ++ fault.message

namespace Watch

/-- For how long after a rebuild, or after the start, changes are passed over. -/
def pause : Nat := 200

/-- Does an event call for a rebuild? It does when something changed that is not passed
over. -/
def calls (watch : Watch) (event : Event) : Bool :=
  match event.news with
  | .changed paths => !Watching.ignoresChange watch.ignore? watch.directory? paths
  | .failed _ => false

/-- What a watch does about an event, when it last built again, or started, at a
given time. -/
def reaction (watch : Watch) (since : Nat) (event : Event) : Reaction :=
  match event.news with
  | .failed reason => .report ("watch error: ".toList ++ reason)
  | .changed _ =>
      if !watch.calls event then .passOver
      else if event.time - since < pause then .passOver
      else .rebuild

/-- What a watch does about an event, and when it last built again behind it. -/
def step (watch : Watch) (since : Nat) (event : Event) : Nat × Reaction :=
  match watch.reaction since event with
  | .rebuild => (event.time, .rebuild)
  | other => (since, other)

/-- What a watch does about events, one after another. -/
def run (watch : Watch) (since : Nat) : List Event → List Reaction
  | [] => []
  | event :: rest =>
      let (next, reaction) := watch.step since event
      reaction :: watch.run next rest

end Watch

end StateSheet
