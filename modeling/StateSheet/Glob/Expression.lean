import StateSheet.Glob.Token

/-!
# Globs as expressions

The regular expression that a glob is written as when it takes more than a
comparison of texts to decide it, and how deep that expression nests. An
expression that nests too deep is refused.

Of an expression only its text and its extent are kept: how many items stand
side by side in it, and how deep the deepest of them nests. A star is a level
of its own, and so is a class, a group, a choice and a sequence of several
items.
-/

set_option autoImplicit false

namespace StateSheet.Glob

/-! ## Texts -/

/-- The characters that have a meaning in an expression. -/
def metaCharacters : Text := "\\.+*?()|[]\x7b\x7d^$#&-~".toList

/-- The text of a byte in an expression. -/
def byteText (b : UInt8) : Text :=
  if b < 128 then
    let c := Char.ofNat b.toNat
    if metaCharacters.contains c then ['\\', c] else [c]
  else ['\\', 'x'] ++ Nat.toDigits 16 b.toNat

/-- The text of a character in an expression: that of each of its bytes. -/
def characterText (c : Char) : Text := (String.utf8EncodeChar c).flatMap byteText

/-- The text of a range of characters in a class. -/
def rangeText (range : Char × Char) : Text :=
  if range.1 = range.2 then characterText range.1
  else characterText range.1 ++ ['-'] ++ characterText range.2

/-- The text of a wildcard. -/
def Dialect.wildcardText (dialect : Dialect) : Text :=
  if dialect.wildcardsCross then ['.'] else ['[', '^', '/', ']']

/-- The text of a choice. Empty alternatives do not count, and without any other
the choice is empty. -/
def choiceText (alternatives : List Text) : Text :=
  match alternatives.filter fun alternative => !alternative.isEmpty with
  | [] => []
  | kept => ['(', '?', ':'] ++ ['|'].intercalate kept ++ [')']

namespace Token

mutual
/-- The text of a token in an expression. -/
def text (dialect : Dialect) : Token → Text
  | literal c => characterText c
  | one => dialect.wildcardText
  | many => dialect.wildcardText ++ ['*']
  | leadingDirectories => "(?:/?|.*/)".toList
  | trailingEntries => "/.*".toList
  | innerDirectories => "(?:/|/.*/)".toList
  | oneOf negated ranges =>
      ['['] ++ (if negated then ['^'] else []) ++ ranges.flatMap rangeText ++ [']']
  | group alternatives => choiceText (alternativeTexts dialect alternatives)

/-- The text of tokens one behind another. -/
def sequenceText (dialect : Dialect) : List Token → Text
  | [] => []
  | token :: rest => token.text dialect ++ sequenceText dialect rest

/-- The texts of the alternatives of a group. -/
def alternativeTexts (dialect : Dialect) : List (List Token) → List Text
  | [] => []
  | tokens :: rest => sequenceText dialect tokens :: alternativeTexts dialect rest
end

/-- The expression that the tokens of a glob are written as. It stands for
bytes, from the first to the last. Two stars alone are written as one. -/
def expression (dialect : Dialect) (tokens : List Token) : Text :=
  let body :=
    match tokens with
    | [leadingDirectories] => ['.', '*']
    | tokens => sequenceText dialect tokens
  "(?-u)^".toList ++ body ++ ['$']

end Token

/-! ## Extents -/

/-- The extent of a part of an expression. -/
structure Extent where
  /-- How many items stand side by side. -/
  items : Nat
  /-- How deep the deepest of them nests. -/
  depth : Nat
deriving DecidableEq, Repr

namespace Extent

/-- The extent of nothing. -/
def empty : Extent := ⟨0, 0⟩

/-- The extent of one part behind another. -/
def append (first second : Extent) : Extent :=
  ⟨first.items + second.items, max first.depth second.depth⟩

/-- How deep something with several parts or just one nests, given how deep the
parts do. -/
def several (parts depth : Nat) : Nat := if parts < 2 then depth else depth + 1

/-- The extent of a choice. Empty alternatives do not count, and without any
other the choice is empty. -/
def choice (alternatives : List Extent) : Extent :=
  match alternatives.filter fun alternative => alternative.items != 0 with
  | [] => empty
  | kept =>
      let depths := kept.map fun alternative => several alternative.items alternative.depth
      ⟨1, several kept.length (depths.foldl max 0) + 1⟩

end Extent

namespace Token

mutual
/-- The extent of a token in an expression. -/
def extent (dialect : Dialect) : Token → Extent
  | literal c => ⟨(String.utf8EncodeChar c).length, 0⟩
  | one => ⟨1, if dialect.wildcardsCross then 0 else 1⟩
  | many => ⟨1, if dialect.wildcardsCross then 1 else 2⟩
  | leadingDirectories => ⟨1, 4⟩
  | trailingEntries => ⟨2, 1⟩
  | innerDirectories => ⟨1, 4⟩
  | oneOf _ ranges => ⟨1, Extent.several (ranges.flatMap byteRanges).length 1⟩
  | group alternatives => Extent.choice (alternativeExtents dialect alternatives)

/-- The extent of tokens one behind another. -/
def sequenceExtent (dialect : Dialect) : List Token → Extent
  | [] => .empty
  | token :: rest => (token.extent dialect).append (sequenceExtent dialect rest)

/-- The extents of the alternatives of a group. -/
def alternativeExtents (dialect : Dialect) : List (List Token) → List Extent
  | [] => []
  | tokens :: rest => sequenceExtent dialect tokens :: alternativeExtents dialect rest
end

/-- How deep an expression may nest. -/
def depthLimit : Nat := 250

/-- Does the expression of a glob nest too deep? It is a sequence of its items
and of the marks for its start and its end. -/
def nestsTooDeep (dialect : Dialect) (tokens : List Token) : Bool :=
  depthLimit < (sequenceExtent dialect tokens).depth + 1

end Token

end StateSheet.Glob
