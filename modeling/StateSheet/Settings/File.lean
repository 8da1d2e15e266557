import StateSheet.FileTree.Workspace
import StateSheet.Settings.Reader

/-!
# Settings files

Settings read from the file at a path. A text that makes no settings is refused
without a diagnosis: the message names the file, but neither the position nor the
reason.
-/

set_option autoImplicit false

namespace StateSheet

/-- Why settings cannot be had from a file. -/
inductive SettingsFault where
  | unreadable (path : Path) (fault : AccessFault)
  /-- The text is no document with settings of the right kinds. -/
  | malformed (path : Path)
deriving DecidableEq, Repr

/-- The message that reports a fault. Of a malformed file it has the path alone. The
diagnosis of the text, which would follow behind a colon, is left out, since
`Settings.read?` gives none. -/
def SettingsFault.message : SettingsFault → Text
  | .unreadable path fault =>
      "failed to read config ".toList ++ path.written ++ [':', ' '] ++ fault.message
  | .malformed path => "failed to parse config ".toList ++ path.written

/-- The settings in the file at a path. -/
def Settings.load (workspace : Workspace) (path : Path) : Except SettingsFault Settings :=
  match workspace.readText path with
  | .error fault => .error (.unreadable path fault)
  | .ok text =>
      match Settings.read? text with
      | none => .error (.malformed path)
      | some settings => .ok settings

end StateSheet
