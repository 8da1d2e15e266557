import StateSheet.FileTree.Lines
import StateSheet.Text.Blank

/-!
# Repositories

What of a repository the walk over files asks for: whether a directory is the
top of one, and which file lists the entries that are excluded from it.

A working tree can be linked to a repository that lies elsewhere. Then a file
stands where the repository would, whose first line names the directory that
belongs to the working tree, and a file in that directory names the directory
that all linked working trees share.

A user can have a file that lists what is excluded from all repositories. The
user's settings name it.
-/

set_option autoImplicit false

namespace StateSheet.Repository

/-- The name of the directory, or of the link, at the top of a repository. -/
def directoryName : Text := ".git".toList

/-- The names of the entries any of which makes a directory the top of a
repository. -/
def topNames : List Text := [directoryName, ".jj".toList]

/-- Is the directory with the given entries the top of a repository? -/
def isTop (entries : List (Text × FileTree)) : Bool :=
  topNames.any fun name => (FileTree.child? name entries).isSome

/-- Where in its directory a repository lists what is excluded from it. -/
def excludePath : Path := ⟨"info/exclude".toList⟩

/-- The directory that belongs to a linked working tree, as the content of the
link names it. -/
def linkedDirectory? (link : ByteArray) : Option Path :=
  match FileTree.textLines link with
  | [] => none
  | line :: _ => (Text.dropPrefix? "gitdir: ".toList line).map Path.mk

/-- The file that names the directory that linked working trees share. -/
def sharingFile (linked : Path) : Path := linked.append ⟨"commondir".toList⟩

/-- The directory that linked working trees share. With a dot at its start it
is named as seen from the directory that belongs to the working tree. -/
def sharedDirectory? (workspace : Workspace) (linked : Path) : Option Path :=
  match workspace.linesAt (sharingFile linked) with
  | [] => none
  | line :: _ => some (if line.head? = some '.' then linked.append ⟨line⟩ else ⟨line⟩)

/-- The lines that say what is excluded from the repository whose top has the
given entries and lies at a path. -/
def excludeLines (workspace : Workspace) (entries : List (Text × FileTree)) : List Text :=
  match FileTree.child? directoryName entries with
  | none => []
  | some (.directory inside) =>
      match (FileTree.directory inside).at? (Text.pieces '/' excludePath.written) with
      | some (.file content) => FileTree.textLines content
      | _ => []
  | some (.file link) =>
      match (linkedDirectory? link).bind (sharedDirectory? workspace) with
      | none => []
      | some shared => workspace.linesAt (shared.append excludePath)

/-! ## What users exclude -/

/-- The lines that say what the user excludes from all repositories. -/
def userExcludeLines (workspace : Workspace) : List Text :=
  match workspace.userExcludes? with
  | none => []
  | some path => workspace.linesAt path

/-- The name of the setting that says where a user lists what is excluded from all
repositories. It can be written in upper case as well. -/
def userExcludesKey : Text := "excludesfile".toList

/-- A value without the quotes around it. -/
def unquoted (value : Text) : Text :=
  let opened := if value.head? = some '"' then Text.trimStart value.tail else value
  if opened.getLast? = some '"' then Text.trimEnd opened.dropLast else opened

/-- The path that a line of a user's settings gives as that of the excludes. -/
def userExcludesIn? (line : Text) : Option Text :=
  let setting := line.trim
  if (setting.take userExcludesKey.length).map Char.toLower = userExcludesKey then
    match Text.trimStart (setting.drop userExcludesKey.length) with
    | '=' :: value =>
        let path := unquoted (Text.trim value)
        if path = [] ∨ path.any isBlank then none else some path
    | _ => none
  else none

end StateSheet.Repository
