import StateSheet.Path.Basic

/-!
# Roots of globs

The directory from which the files that a glob can match are looked for: the
part of the glob up to the last separator before its first special character.
A glob without a special character names a file or a directory; it is taken
for a file, whose directory is the root, if it has an extension.
-/

set_option autoImplicit false

namespace StateSheet.Glob

/-- Does a character make a pattern more than a plain path? -/
def isSpecial (c : Char) : Bool := c == '*' || c == '?' || c == '[' || c == '\x7b'

/-- Does a character end a directory in a pattern? -/
def isSeparator (c : Char) : Bool := c == '/' || c == '\\'

/-- The directory in which everything happens unless something else is said. -/
def here : Path := ⟨['.']⟩

/-- The directory from which the files that a pattern can match are looked
for. -/
def root (pattern : Text) : Path :=
  let plain := pattern.takeWhile fun c => !isSpecial c
  if plain = pattern then
    let path : Path := ⟨pattern⟩
    if pattern.getLast?.any isSeparator || path.extension? = none then path
    else
      match path.parent? with
      | some directory => if directory.written = [] then here else directory
      | none => here
  else
    let directory := (plain.reverse.dropWhile fun c => !isSeparator c).reverse
    if directory = [] then here else ⟨directory⟩

end StateSheet.Glob
