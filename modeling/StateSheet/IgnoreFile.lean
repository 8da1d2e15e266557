import StateSheet.Glob.Expression
import StateSheet.Glob.Reader
import StateSheet.Text.Blank

/-!
# Ignore files

An ignore file has a rule on every line. A rule is a glob that says which
entries below the directory of the file are ignored or, behind an exclamation
mark, are not. With a separator at its start or inside, the glob is matched
against the whole path from that directory; otherwise against the last
component. With a separator at its end it concerns directories only.

The last rule of a file that applies to an entry decides. Lines that are no
glob are passed over. A file with a glob that nests too deep has no rule at
all.
-/

set_option autoImplicit false

namespace StateSheet

/-- What a rule decides for an entry. -/
inductive Verdict where
  | ignored
  | kept
deriving DecidableEq, Repr

/-- A rule of an ignore file. -/
structure IgnoreRule where
  shape : Glob.Shape
  verdict : Verdict
  directoriesOnly : Bool
  /-- Does the glob of the rule nest too deep? -/
  nestsTooDeep : Bool
deriving DecidableEq, Repr

namespace IgnoreRule

/-- Is this the start of a text? -/
def startsWith (beginning text : Text) : Bool := (Text.dropPrefix? beginning text).isSome

/-- Is this the end of a text? -/
def endsWith (ending text : Text) : Bool := startsWith ending.reverse text.reverse

/-- A line without the blanks at its end, unless the last of them is escaped. -/
def trimLine (line : Text) : Text := if endsWith ['\\', ' '] line then line else line.trimEnd

/-- The glob that a rule matches with, from the glob as written without the
separators at its ends. `anchored` says that a separator stood at its start. -/
def globOf (anchored : Bool) (written : Text) : Text :=
  let placed :=
    if anchored || written.contains '/' || written = ['*', '*'] then written
    else ['*', '*', '/'] ++ written
  if endsWith ['/', '*', '*'] placed then placed ++ ['/', '*'] else placed

/-- The rule that a line makes, if it makes one. -/
def read? (line : Text) : Option IgnoreRule :=
  let trimmed := trimLine line
  if trimmed = [] ∨ line.head? = some '#' then none
  else
    let escaped := startsWith ['\\', '!'] trimmed || startsWith ['\\', '#'] trimmed
    let kept := !escaped && trimmed.head? == some '!'
    let pattern := if escaped || kept then trimmed.tail else trimmed
    let anchored := pattern.head? == some '/'
    let pattern := if anchored then pattern.tail else pattern
    let directoriesOnly := pattern.getLast? == some '/'
    let pattern :=
      if directoriesOnly then
        let shorter := pattern.dropLast
        if shorter.getLast? = some '\\' then shorter.dropLast else shorter
      else pattern
    match Glob.read .ignoreFile (globOf anchored pattern) with
    | .error _ => none
    | .ok tokens =>
        some
          { shape := Glob.Token.globShape .ignoreFile tokens
            verdict := if kept then .kept else .ignored
            directoriesOnly
            nestsTooDeep := Glob.Token.nestsTooDeep .ignoreFile tokens }

/-- Does a rule apply to an entry, given by the bytes of its path from the
directory of the ignore file? -/
def appliesTo (rule : IgnoreRule) (path : List UInt8) (isDirectory : Bool) : Bool :=
  (isDirectory || !rule.directoriesOnly) && rule.shape.accepts path

end IgnoreRule

/-- The rules of an ignore file, in the order of their lines. -/
abbrev IgnoreRules := List IgnoreRule

namespace IgnoreRules

/-- The character that may stand at the start of a file to mark the order of its
bytes. -/
def byteOrderMark : Char := Char.ofNat 0xFEFF

/-- Lines without the byte order marks at the start of the first. -/
def dropMarks : List Text → List Text
  | [] => []
  | first :: rest => first.dropWhile (· == byteOrderMark) :: rest

/-- The rules that the lines of an ignore file make. -/
def ofLines (lines : List Text) : IgnoreRules :=
  let rules := (dropMarks lines).filterMap IgnoreRule.read?
  if rules.any (·.nestsTooDeep) then [] else rules

/-- The verdict on an entry, given by the bytes of its path from the directory
of the ignore file. -/
def verdict? (rules : IgnoreRules) (path : List UInt8) (isDirectory : Bool) : Option Verdict :=
  (rules.reverse.find? fun rule => rule.appliesTo path isDirectory).map (·.verdict)

end IgnoreRules

end StateSheet
