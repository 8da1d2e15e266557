import StateSheet.FileTree.Workspace

/-!
# Lines of files

A line ends at a line feed, and a carriage return in front of that belongs to
the line end. Behind the last line feed there is a line only if something
stands there, and a carriage return at the end of that is a part of it.
-/

set_option autoImplicit false

namespace StateSheet

namespace FileTree

/-- The lines of bytes, without their line ends. -/
def lines : List UInt8 → List (List UInt8)
  | [] => []
  | 10 :: rest => [] :: lines rest
  | 13 :: 10 :: rest => [] :: lines rest
  | b :: rest =>
      match lines rest with
      | [] => [[b]]
      | line :: more => (b :: line) :: more

/-- The texts of lines up to the first that is no text. -/
def decodeLines : List (List UInt8) → List Text
  | [] => []
  | line :: rest =>
      match decode? ⟨line.toArray⟩ with
      | none => []
      | some text => text :: decodeLines rest

/-- The lines of a file up to the first that is no text. -/
def textLines (content : ByteArray) : List Text := decodeLines (lines content.toList)

end FileTree

namespace Workspace

/-- The lines of the file that a path leads to, up to the first that is no
text. What is no file has none. -/
def linesAt (workspace : Workspace) (path : Path) : List Text :=
  match workspace.find path with
  | .ok (.file content) => FileTree.textLines content
  | _ => []

end Workspace

end StateSheet
