import StateSheet.Candidate.Extraction
import StateSheet.Glob.Basic
import StateSheet.Glob.Root
import StateSheet.Walk

/-!
# Scans

The class candidates of the files that some globs select. A scan of globs
walks from the root of each glob, keeps the files that a glob with that root
matches and no ignore glob does, and extracts the candidates of their texts.
A glob is matched against the path of a file as walked and as seen from the
root.

Globs with the same root are walked together, the roots in the order of their
components. A file that is found under several roots counts once if its paths
are the same component by component.
-/

set_option autoImplicit false

namespace StateSheet

/-- Why a scan fails. -/
inductive ScanFault where
  | noPattern
  | invalidGlobs (fault : GlobsFault)
  | pathNotFound (path : Path)
deriving DecidableEq, Repr

/-- The message that reports a fault. -/
def ScanFault.message : ScanFault → Text
  | .noPattern => "scan requires at least one glob pattern".toList
  | .invalidGlobs fault => fault.message
  | .pathNotFound path => "path not found: ".toList ++ path.written

/-- What a scan finds. -/
structure Findings where
  /-- The candidates, each where it first occurs. -/
  classes : List Text
  /-- How many texts were read. -/
  fileCount : Nat
deriving DecidableEq, Repr

/-! ## Scans of paths -/

/-- The texts of the files at or below a path. -/
def textsAt (workspace : Workspace) (path : Path) : Except ScanFault (List Text) :=
  match workspace.find path with
  | .error _ => .error (.pathNotFound path)
  | .ok node => .ok node.texts

/-- Scans the files at or below some paths. -/
def Findings.ofPaths (workspace : Workspace) (paths : List Path) : Except ScanFault Findings :=
  match paths.mapM (textsAt workspace) with
  | .error fault => .error fault
  | .ok texts =>
      .ok { classes := distinct (texts.flatten.flatMap Candidate.extract)
            fileCount := texts.flatten.length }

/-! ## The files that globs select -/

/-- Where and how a walk looks for files. -/
structure WalkOptions where
  root : Path := Glob.here
  respectsRepository : Bool := true
  includesModules : Bool := false

/-- The name of the directories that hold code of others. -/
def modulesDirectory : Text := "node_modules".toList

/-- The extensions of files that hold no markup. -/
def skippedExtensions : List Text :=
  ["css", "scss", "png", "jpg", "jpeg", "gif", "webp", "ico", "pdf", "zip", "gz", "woff", "woff2",
    "ttf", "lock"].map String.toList

/-- Is a file passed over whatever the globs say? -/
def isSkipped (options : WalkOptions) (path : Path) : Bool :=
  (!options.includesModules && path.passesThrough modulesDirectory) ||
    path.extension?.any fun extension => skippedExtensions.contains (extension.map Char.toLower)

/-- Does one of the globs match a path, as walked or as seen from the root? -/
def matchesFrom (root : Path) (globs : Globs) (path : Path) : Bool :=
  globs.isMatch ((root.relativeTo? path).getD path) || globs.isMatch path

/-- The paths of the files that globs select in a walk. -/
def selectedFrom (workspace : Workspace) (options : WalkOptions) (globs ignore : Globs) :
    List Path :=
  (walk workspace options.respectsRepository options.root).filter fun path =>
    matchesFrom options.root globs path && !matchesFrom options.root ignore path &&
      !isSkipped options path

/-- Reads globs for a scan. -/
def readGlobs (patterns : List Text) : Except ScanFault Globs :=
  match Globs.read patterns with
  | .error fault => .error (.invalidGlobs fault)
  | .ok globs => .ok globs

/-! ## Scans of globs -/

/-- Scans the files that globs select in one walk. -/
def Findings.ofWalk (workspace : Workspace) (options : WalkOptions) (patterns ignore : List Text) :
    Except ScanFault Findings := do
  if patterns = [] then throw .noPattern
  let globs ← readGlobs patterns
  let ignoreGlobs ← readGlobs ignore
  Findings.ofPaths workspace (selectedFrom workspace options globs ignoreGlobs)

/-- The roots of globs, each once, in the order of their components. -/
def patternRoots (patterns : List Text) : List Path :=
  (distinctBy Path.components (patterns.map Glob.root)).mergeSort fun first second =>
    !decide (second.components < first.components)

/-- The globs with a root. -/
def patternsOf (root : Path) (patterns : List Text) : List Text :=
  patterns.filter fun pattern => (Glob.root pattern).components = root.components

/-- The paths of the files that globs select, each walked for from its root. -/
def selectedPaths (workspace : Workspace) (ignore : Globs) (patterns : List Text) :
    Except ScanFault (List Path) := do
  let collected ← (patternRoots patterns).mapM fun root => do
    let globs ← readGlobs (patternsOf root patterns)
    return selectedFrom workspace { root } globs ignore
  return distinctBy Path.components collected.flatten

/-- Scans the files that globs select, each walked for from its root. -/
def Findings.ofGlobs (workspace : Workspace) (patterns ignore : List Text) :
    Except ScanFault Findings := do
  if patterns = [] then throw .noPattern
  let ignoreGlobs ← readGlobs ignore
  Findings.ofPaths workspace (← selectedPaths workspace ignoreGlobs patterns)

end StateSheet
