import StateSheet.Glob.Shape

/-!
# Tokens of globs

The parts that a glob is read into, and the shape that they stand for. A
question mark stands for one byte, a star for any number of bytes, and two
stars that make up a component for any number of directories; a class stands
for one byte, and a group for one of its alternatives, which are tokens again.

A character beyond ASCII stands for its UTF-8 bytes in order. In a class it
contributes each of its bytes, and a range runs from the last byte of its lower
end to the first byte of its upper end.
-/

set_option autoImplicit false

namespace StateSheet.Glob

/-! ## Dialects -/

/-- How globs are read in a given place. -/
structure Dialect where
  /-- May a wildcard pass over a separator? -/
  wildcardsCross : Bool
  /-- Does a bracket that is never closed stand for itself? -/
  looseBrackets : Bool

/-- The dialect of path filters. -/
def Dialect.filter : Dialect := ⟨true, false⟩

/-- The dialect of ignore files. -/
def Dialect.ignoreFile : Dialect := ⟨false, true⟩

/-- The bytes that a wildcard stands for. -/
def Dialect.wildcard (dialect : Dialect) : ByteClass :=
  if dialect.wildcardsCross then .any else .name

/-! ## Tokens -/

/-- A part of a glob. -/
inductive Token where
  /-- A character that stands for itself. -/
  | literal (c : Char)
  /-- A question mark. -/
  | one
  /-- A star. -/
  | many
  /-- Two stars at the start of a glob or an alternative: any directories. -/
  | leadingDirectories
  /-- Two stars behind a separator at the end: at least one more component. -/
  | trailingEntries
  /-- Two stars between separators: any directories between. -/
  | innerDirectories
  /-- A class in brackets, with its ranges in their order. -/
  | oneOf (negated : Bool) (ranges : List (Char × Char))
  /-- A group in braces, with its alternatives in their order. -/
  | group (alternatives : List (List Token))
deriving Repr

namespace Token

/-- The character of a token that stands for a single one. -/
def literal? : Token → Option Char
  | literal c => some c
  | _ => none

/-- The ranges of bytes that a range of characters contributes to a class. -/
def byteRanges (range : Char × Char) : List (UInt8 × UInt8) :=
  let singles : List UInt8 → List (UInt8 × UInt8) := List.map fun b => (b, b)
  let lower := String.utf8EncodeChar range.1
  if range.1 = range.2 then singles lower
  else
    let upper := String.utf8EncodeChar range.2
    singles lower.dropLast ++ [(lower.getLastD 0, upper.headD 0)] ++ singles upper.tail

/-! ## Shapes -/

/-- A single given byte. -/
def byte (b : UInt8) : Shape := .one (.single b)

/-- No byte, or anything that ends in a separator. -/
def anyDirectories : Shape :=
  .either .empty (.append (.many .any) (byte ByteClass.slash))

mutual
/-- The shape that a token stands for. -/
def shape (dialect : Dialect) : Token → Shape
  | literal c => Shape.sequence ((String.utf8EncodeChar c).map byte)
  | one => .one dialect.wildcard
  | many => .many dialect.wildcard
  | leadingDirectories => anyDirectories
  | trailingEntries => .append (byte ByteClass.slash) (.many .any)
  | innerDirectories => .append (byte ByteClass.slash) anyDirectories
  | oneOf negated ranges => .one ⟨negated, ranges.flatMap byteRanges⟩
  | group alternatives => Shape.choice (alternativeShapes dialect alternatives)

/-- The shape that tokens stand for, one behind another. -/
def sequenceShape (dialect : Dialect) : List Token → Shape
  | [] => .empty
  | token :: rest => .append (token.shape dialect) (sequenceShape dialect rest)

/-- The shapes that the alternatives of a group stand for. -/
def alternativeShapes (dialect : Dialect) : List (List Token) → List Shape
  | [] => []
  | tokens :: rest => sequenceShape dialect tokens :: alternativeShapes dialect rest
end

/-- The shape that the tokens of a glob stand for. Two stars alone stand for
everything. -/
def globShape (dialect : Dialect) : List Token → Shape
  | [leadingDirectories] => .many .any
  | tokens => sequenceShape dialect tokens

end Token

end StateSheet.Glob
