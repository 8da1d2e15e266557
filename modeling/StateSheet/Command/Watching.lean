import StateSheet.Glob.Basic
import StateSheet.Glob.Root
import StateSheet.Text.Distinct

/-!
# Watching

Which directories are watched for changes, and which changes are passed over.
Watched are the roots of all input globs and of the settings file, each once.
A change is passed over when all the paths that it touches are ignored.

Changes are told of by absolute paths while ignore globs are mostly relative,
so a path is matched as it is and as it looks from the working directory.
-/

set_option autoImplicit false

namespace StateSheet.Watching

/-- The roots to be watched for some input globs and a settings file. -/
def roots (inputs : List Text) (config? : Option Text) : List Path :=
  distinctBy Path.components ((inputs ++ config?.toList).map Glob.root)

/-- Is a path ignored, as it is or as seen from the working directory? -/
def ignoresPath (ignore : Globs) (directory? : Option Path) (path : Path) : Bool :=
  ignore.isMatch path ||
    ((directory?.bind fun directory => directory.relativeTo? path).any fun relative =>
      ignore.isMatch relative)

/-- Is a change that touches these paths passed over? A change that touches
none is not. -/
def ignoresChange (ignore? : Option Globs) (directory? : Option Path) (paths : List Path) :
    Bool :=
  match ignore? with
  | none => false
  | some ignore => !paths.isEmpty && paths.all (ignoresPath ignore directory?)

end StateSheet.Watching
