import StateSheet.Text.Basic

/-!
# File trees

The files of a computer as one value: a file with its bytes, or a directory
with the entries in it. A place is a list of names that leads from the top of
the tree to an entry.

Scanning, building and watching are functions on such a tree, and only the
program around them looks at real files.
-/

set_option autoImplicit false

namespace StateSheet

/-- A file or a directory. -/
inductive FileTree where
  | file (content : ByteArray)
  | directory (entries : List (Text × FileTree))

/-- The names that lead to an entry from the top of a tree. -/
abbrev Place := List Text

namespace FileTree

/-! ## Entries -/

/-- The entry with a name among the entries of a directory. -/
def child? (name : Text) : List (Text × FileTree) → Option FileTree
  | [] => none
  | entry :: rest => if entry.1 = name then some entry.2 else child? name rest

/-- The entries with one written under a name, in place of the one there or
behind all others. -/
def writeEntry (name : Text) (node : FileTree) :
    List (Text × FileTree) → List (Text × FileTree)
  | [] => [(name, node)]
  | entry :: rest =>
      if entry.1 = name then (name, node) :: rest else entry :: writeEntry name node rest

/-- The entries of a directory; a file has none. -/
def entries : FileTree → List (Text × FileTree)
  | file _ => []
  | directory entries => entries

/-! ## Looking up and changing -/

/-- The file or directory at a place. -/
def at? : FileTree → Place → Option FileTree
  | tree, [] => some tree
  | tree, name :: place => (child? name tree.entries).bind fun node => node.at? place

/-- The tree with a file or directory put at a place, together with the
directories that lead there. -/
def put : FileTree → Place → FileTree → FileTree
  | _, [], node => node
  | tree, name :: place, node =>
      let below := (child? name tree.entries).getD (directory [])
      directory (writeEntry name (below.put place node) tree.entries)

/-- The tree without the entry at a place. -/
def remove : FileTree → Place → FileTree
  | tree, [] => tree
  | tree, [name] => directory (tree.entries.filter fun entry => entry.1 != name)
  | tree, name :: place =>
      match child? name tree.entries with
      | none => tree
      | some node => directory (writeEntry name (node.remove place) tree.entries)

/-! ## All files -/

mutual
/-- The files of a tree with their places, behind the place of the tree. -/
def filesFrom (place : Place) : FileTree → List (Place × ByteArray)
  | file content => [(place, content)]
  | directory entries => filesInFrom place entries

/-- The files of the entries of a directory with their places, behind the place
of the directory. -/
def filesInFrom (place : Place) : List (Text × FileTree) → List (Place × ByteArray)
  | [] => []
  | (name, node) :: rest => filesFrom (place ++ [name]) node ++ filesInFrom place rest
end

/-- The files of a tree with their places. -/
def files (tree : FileTree) : List (Place × ByteArray) := tree.filesFrom []

/-- The content of a file; a directory has none. -/
def content? : FileTree → Option ByteArray
  | file content => some content
  | directory _ => none

/-- The files of a tree that are not in an earlier one, or have other content
there. -/
def changesSince (earlier later : FileTree) : List (Place × ByteArray) :=
  later.files.filter fun entry =>
    ((earlier.at? entry.1).bind content?).all fun content => content != entry.2

/-- The text of bytes that are valid UTF-8. -/
def decode? (content : ByteArray) : Option Text := (String.fromUTF8? content).map String.toList

/-- The UTF-8 bytes of a text. -/
def encode (text : Text) : ByteArray := (String.ofList text).toUTF8

mutual
/-- The texts of the files of a tree, without those files that hold none. -/
def texts : FileTree → List Text
  | file content => (decode? content).toList
  | directory entries => textsIn entries

/-- The texts of the files among the entries of a directory. -/
def textsIn : List (Text × FileTree) → List Text
  | [] => []
  | (_, node) :: rest => node.texts ++ textsIn rest
end

end FileTree

end StateSheet
