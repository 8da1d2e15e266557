import StateSheet.FileTree.Basic
import StateSheet.Path.Basic

/-!
# Workspaces

A workspace is a file tree seen from a working directory. Paths lead through it
from the working directory, or from the top if they start there, one segment
after another; every segment but the last has to lead to a directory, and so
has the last one if a separator follows it.

Reading and writing fail for the reasons, and with the messages, that an
operating system gives.
-/

set_option autoImplicit false

namespace StateSheet

/-- Why a file cannot be reached, read or written. -/
inductive AccessFault where
  | notFound
  | notDirectory
  | isDirectory
  | nameTooLong
  | nulInName
  | notText
deriving DecidableEq, Repr

/-- The wording of a fault. -/
def AccessFault.message : AccessFault → Text
  | .notFound => "No such file or directory (os error 2)".toList
  | .notDirectory => "Not a directory (os error 20)".toList
  | .isDirectory => "Is a directory (os error 21)".toList
  | .nameTooLong => "File name too long (os error 36)".toList
  | .nulInName => "file name contained an unexpected NUL byte".toList
  | .notText => "stream did not contain valid UTF-8".toList

/-- A file tree, the place that relative paths start from, and what is known of the
user who works there. -/
structure Workspace where
  tree : FileTree
  directory : Place := []
  /-- The file that lists what the user excludes from all repositories. -/
  userExcludes? : Option Path := none

/-- The absolute path of a place. -/
def Path.ofPlace (place : Place) : Path := ⟨'/' :: ['/'].intercalate place⟩

namespace Workspace

/-! ## Following paths -/

/-- How many bytes a name may have. -/
def nameLimit : Nat := 255

/-- How many bytes a path may not reach. -/
def pathLimit : Nat := 4096

/-- The place that one segment of a path leads to from another place. -/
def follow (tree : FileTree) (place : Place) (segment : Text) : Except AccessFault Place :=
  match tree.at? place with
  | none => .error .notFound
  | some (.file _) => .error .notDirectory
  | some (.directory entries) =>
      if Path.isTrivial segment then .ok place
      else if segment = ['.', '.'] then .ok place.dropLast
      else if nameLimit < segment.bytes.length then .error .nameTooLong
      else
        match FileTree.child? segment entries with
        | none => .error .notFound
        | some _ => .ok (place ++ [segment])

/-- Where a path starts. -/
def start (workspace : Workspace) (path : Path) : Place :=
  if path.isAbsolute then [] else workspace.directory

/-- Refuses what is no path at all. -/
def check (path : Path) : Except AccessFault Unit :=
  if path.written.contains (Char.ofNat 0) then .error .nulInName
  else if path.written = [] then .error .notFound
  else if pathLimit ≤ path.written.bytes.length then .error .nameTooLong
  else .ok ()

/-- The place that a path leads to. -/
def resolve (workspace : Workspace) (path : Path) : Except AccessFault Place :=
  match check path with
  | .error fault => .error fault
  | .ok () =>
      (Text.pieces '/' path.written).foldlM (follow workspace.tree) (workspace.start path)

/-- The file or directory that a path leads to. -/
def find (workspace : Workspace) (path : Path) : Except AccessFault FileTree :=
  match workspace.resolve path with
  | .error fault => .error fault
  | .ok place =>
      match workspace.tree.at? place with
      | none => .error .notFound
      | some node => .ok node

/-- A path as it leads from the top. -/
def absolute (workspace : Workspace) (path : Path) : Path :=
  (Path.ofPlace workspace.directory).append path

/-! ## Reading and writing -/

/-- The text of the file that a path leads to. -/
def readText (workspace : Workspace) (path : Path) : Except AccessFault Text :=
  match workspace.find path with
  | .error fault => .error fault
  | .ok (.directory _) => .error .isDirectory
  | .ok (.file content) =>
      match FileTree.decode? content with
      | none => .error .notText
      | some text => .ok text

/-- The place that a file written to a path gets. The path must lead to a file
or to a free name in a directory. -/
def writePlace (workspace : Workspace) (path : Path) : Except AccessFault Place :=
  match check path with
  | .error fault => .error fault
  | .ok () =>
      let segments := Text.pieces '/' path.written
      match (segments.reverse.dropWhile (· = [])) with
      | [] => .error .isDirectory
      | name :: enclosing =>
          match enclosing.reverse.foldlM (follow workspace.tree) (workspace.start path) with
          | .error fault => .error fault
          | .ok place =>
              match follow workspace.tree place ['.'] with
              | .error fault => .error fault
              | .ok _ =>
                  if name = ['.'] ∨ name = ['.', '.'] ∨ segments.getLast? = some [] then
                    .error .isDirectory
                  else if nameLimit < (Text.bytes name).length then .error .nameTooLong
                  else
                    match workspace.tree.at? (place ++ [name]) with
                    | some (.directory _) => .error .isDirectory
                    | _ => .ok (place ++ [name])

/-- The workspace with a text written to a path. -/
def writeText (workspace : Workspace) (path : Path) (text : Text) :
    Except AccessFault Workspace :=
  match workspace.writePlace path with
  | .error fault => .error fault
  | .ok place =>
      .ok { workspace with tree := workspace.tree.put place (.file (FileTree.encode text)) }

end Workspace

end StateSheet
