import StateSheet.Command.Basic
import StateSheet.Scan

/-!
# Sources

What of a file tree a command depends on. A program that runs commands on real
files does not need all files of the computer in its tree: it needs the names
of what lies below the roots that are walked, the ways of the paths that are
named, the ignore files with the links that lead to them, and the contents of
the files that are read.
-/

set_option autoImplicit false

namespace StateSheet

/-- The paths that lead to a path, segment by segment, and the path itself. -/
def Path.steps (path : Path) : List Path :=
  let segments := Text.pieces '/' path.written
  (List.range segments.length).map fun count =>
    let start := ['/'].intercalate (segments.take (count + 1))
    ⟨if start = [] then ['/'] else start⟩

namespace Command

/-- The build order of a command that builds. -/
def order? : Command → Option BuildOrder
  | build order => some order
  | watch order _ => some order
  | help | scan _ => none

/-- The files that a command selects, and the ignore globs that count for
it. -/
def selection : Command → Selection
  | help => {}
  | scan selection => selection
  | build order | watch order _ =>
      { order.selection with ignore := order.selection.ignore ++ order.output?.toList }

/-- The roots that a command walks from. -/
def roots (command : Command) : List Path := patternRoots command.selection.inputs

/-- The paths of the settings and of the output that a command is given. -/
def namedPaths (command : Command) : List Path :=
  match command.order? with
  | none => []
  | some order => (order.config?.toList ++ order.output?.toList).map Path.mk

/-- The files whose contents a command reads in a workspace, apart from ignore
files. -/
def sources (command : Command) (workspace : Workspace) : List Path :=
  let settings := (command.order?.bind (·.config?)).toList.map Path.mk
  let selected :=
    match readGlobs command.selection.ignore with
    | .error _ => []
    | .ok ignore => (selectedPaths workspace ignore command.selection.inputs).toOption.getD []
  settings ++ selected

end Command

end StateSheet
