import StateSheet.Glob.Expression
import StateSheet.Glob.Method
import StateSheet.Glob.Reader
import StateSheet.Path.Basic

/-!
# Globs and glob sets

A glob as it was written, with the way to compare it with paths and the shape
that it stands for. A set of globs matches a path when one of them matches the
bytes of the path as written.

A list of path filters is a set of globs if each of them can be read and none
of those that are compared by their expressions nests too deep.
-/

set_option autoImplicit false

namespace StateSheet

/-- A glob, the way to compare it, and the shape it stands for. -/
structure Glob where
  written : Text
  method : Glob.Method
  shape : Glob.Shape
deriving DecidableEq, Repr

namespace Glob

/-- The path filter that tokens make. -/
def ofTokens (written : Text) (tokens : List Token) : Glob where
  written
  method := .ofTokens tokens
  shape := Token.globShape .filter tokens

/-- Does a glob match a path as written? -/
def isMatch (glob : Glob) (path : Path) : Bool :=
  !(glob.method.looksAtName && path.endsInParent) && glob.shape.accepts path.written.bytes

end Glob

/-- Why path filters are no set of globs. -/
inductive GlobsFault where
  /-- A glob cannot be read. -/
  | malformed (written : Text) (fault : Glob.Fault)
  /-- The expression of a glob that is compared by name and expression nests too
  deep. -/
  | deepExpression (expression : Text)
  /-- Of the globs that are compared by their expressions alone, the one at an
  index nests too deep. -/
  | deepPattern (index : Nat)
deriving DecidableEq, Repr

namespace GlobsFault

/-- What is said of an expression that is refused, by its index among those read
together. -/
def refusal (index : Nat) : Text := "error parsing pattern ".toList ++ Nat.toDigits 10 index

/-- The message that reports a fault. -/
def message : GlobsFault → Text
  | malformed written fault =>
      "invalid glob pattern '".toList ++ written ++ "': error parsing glob '".toList ++ written ++
        "': ".toList ++ fault.message
  | deepExpression expression =>
      "failed to build glob set: error parsing glob '".toList ++ expression ++ "': ".toList ++
        refusal 0
  | deepPattern index => "failed to build glob set: ".toList ++ refusal index

end GlobsFault

/-- Globs any of which may match. -/
abbrev Globs := List Glob

namespace Globs

/-- The tokens of a path filter. -/
def readTokens (written : Text) : Except GlobsFault (List Glob.Token) :=
  match Glob.read .filter written with
  | .error fault => .error (.malformed written fault)
  | .ok tokens => .ok tokens

/-- The fault of globs that nest too deep. Those that are compared by name and
expression are looked at first. -/
def depthFault? (globs : List (List Glob.Token)) : Option GlobsFault :=
  let comparedBy (method : Glob.Method) :=
    globs.filter fun tokens => Glob.Method.ofTokens tokens = method
  let isDeep := Glob.Token.nestsTooDeep .filter
  match (comparedBy .nameAndExpression).find? isDeep with
  | some tokens => some (.deepExpression (Glob.Token.expression .filter tokens))
  | none => ((comparedBy .expression).findIdx? isDeep).map .deepPattern

/-- Reads path filters. The first that cannot be read is reported. -/
def read (patterns : List Text) : Except GlobsFault Globs :=
  match patterns.mapM readTokens with
  | .error fault => .error fault
  | .ok globs =>
      match depthFault? globs with
      | some fault => .error fault
      | none => .ok (List.zipWith Glob.ofTokens patterns globs)

/-- Does one of the globs match a path as written? -/
def isMatch (globs : Globs) (path : Path) : Bool := globs.any (Glob.isMatch · path)

end Globs

end StateSheet
