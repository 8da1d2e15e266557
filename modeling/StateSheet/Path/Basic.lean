import StateSheet.Text.Basic

/-!
# Paths

A path is kept as it was written, since that is how it is shown and matched,
and is compared by its components: repeated separators, a separator at the end
and inner dots make no difference to where it leads. A dot at the start is a
component of its own.

The operations that take a path apart keep the part that remains as it was
written, but for the separators and dots at its ends.
-/

set_option autoImplicit false

namespace StateSheet

/-- A path, as it was written. -/
structure Path where
  written : Text
deriving DecidableEq, Repr

namespace Path

/-! ## Components -/

/-- A step of a path. -/
inductive Component where
  /-- The step to the top of all files. -/
  | root
  /-- A dot at the start: staying in place. -/
  | current
  /-- The step to the enclosing directory. -/
  | parent
  /-- The step to an entry with a name. -/
  | entry (name : Text)
deriving DecidableEq, Repr

namespace Component

/-- The place of each kind of component in the order of paths. -/
def rank : Component → Nat
  | root => 0
  | current => 1
  | parent => 2
  | entry _ => 3

/-- Entries are ordered by name, and behind the other kinds. -/
def precedes : Component → Component → Bool
  | entry first, entry second => decide (first < second)
  | first, second => decide (first.rank < second.rank)

instance : LT Component := ⟨fun first second => first.precedes second = true⟩

instance (first second : Component) : Decidable (first < second) :=
  inferInstanceAs (Decidable (first.precedes second = true))

end Component

/-- Does a segment between separators lead nowhere? -/
def isTrivial (segment : Text) : Bool := segment = [] || segment = ['.']

/-- The component of a segment behind a separator. -/
def component? (segment : Text) : Option Component :=
  if isTrivial segment then none
  else if segment = ['.', '.'] then some .parent
  else some (.entry segment)

/-- The components of the segment in front of the first separator. An empty
one is the root if a separator follows it, and nothing if the path is empty. -/
def leadingComponents (segment : Text) (separated : Bool) : List Component :=
  if segment = [] then if separated then [.root] else []
  else if segment = ['.'] then [.current]
  else (component? segment).toList

/-- The components of a path. -/
def components (path : Path) : List Component :=
  match Text.pieces '/' path.written with
  | [] => []
  | first :: rest => leadingComponents first (rest != []) ++ rest.filterMap component?

/-- Does a path start at the root? -/
def isAbsolute (path : Path) : Bool := path.written.head? == some '/'

/-! ## Names -/

/-- The part of a name behind its last dot, unless that dot starts the name. -/
def nameExtension? (name : Text) : Option Text :=
  match Text.cut? '.' name.reverse with
  | some (behind, before) => if before = [] then none else some behind.reverse
  | none => none

/-- The extension of the entry that a path leads to. -/
def extension? (path : Path) : Option Text :=
  match path.components.getLast? with
  | some (.entry name) => nameExtension? name
  | _ => none

/-- Do two dots stand at the end of a path, where a name could? -/
def endsInParent (path : Path) : Bool :=
  (Text.pieces '/' path.written).getLast? == some ['.', '.']

/-- Does a path pass through an entry with a name? -/
def passesThrough (name : Text) (path : Path) : Bool :=
  path.components.contains (.entry name)

/-! ## Taking apart and putting together -/

/-- Segments without those at the end that lead nowhere. -/
def trimLast (segments : List Text) : List Text :=
  (segments.reverse.dropWhile isTrivial).reverse

/-- The segments of a path that its components come from, apart from the root:
a dot at the start counts, and an empty segment there does not. -/
structure Segments where
  /-- The text that the path starts with and that no trimming removes. -/
  anchor : Text
  /-- The segments behind the anchor. -/
  body : List Text

/-- The anchor and the segments of a path. -/
def segments (path : Path) : Segments :=
  match Text.pieces '/' path.written with
  | [] => ⟨[], []⟩
  | [] :: rest => if rest = [] then ⟨[], []⟩ else ⟨['/'], rest⟩
  | ['.'] :: rest => ⟨['.'], rest⟩
  | first :: rest => ⟨[], first :: rest⟩

/-- The path made of an anchor and segments. -/
def Segments.path (segments : Segments) : Path :=
  let body := ['/'].intercalate segments.body
  if segments.anchor = ['.'] ∧ segments.body ≠ [] then ⟨['.', '/'] ++ body⟩
  else ⟨segments.anchor ++ body⟩

/-- The path of the directory that encloses the last component, unless there is
no component but the root. -/
def parent? (path : Path) : Option Path :=
  let parts := path.segments
  match (trimLast parts.body).reverse with
  | [] => if parts.anchor = ['.'] then some ⟨[]⟩ else none
  | _ :: enclosing => some { parts with body := trimLast enclosing.reverse }.path

/-- Segments without as many leading components as there are in a list that
they start with. -/
def dropComponents? : List Component → List Text → Option (List Text)
  | [], body => some body
  | _ :: _, [] => none
  | expected :: more, segment :: body =>
      match component? segment with
      | none => dropComponents? (expected :: more) body
      | some found => if found = expected then dropComponents? more body else none

/-- What is left of a path behind another one that it starts with, component by
component. -/
def relativeTo? (base path : Path) : Option Path :=
  let parts := path.segments
  let leading : List Component :=
    if parts.anchor = ['/'] then [.root] else if parts.anchor = ['.'] then [.current] else []
  match base.components with
  | [] => some { parts with body := trimLast parts.body }.path
  | first :: more =>
      let rest :=
        match leading with
        | [] => dropComponents? (first :: more) parts.body
        | found :: _ => if found = first then dropComponents? more parts.body else none
      rest.map fun body => ⟨['/'].intercalate (trimLast (body.dropWhile isTrivial))⟩

/-- A path continued by a name. -/
def join (path : Path) (name : Text) : Path :=
  if path.written = [] ∨ path.written.getLast? = some '/' then ⟨path.written ++ name⟩
  else ⟨path.written ++ '/' :: name⟩

/-- Where a path leads from the directory at another one. -/
def append (base path : Path) : Path :=
  if path.isAbsolute then path else base.join path.written

/-- A path without the dot and the separator that it may start with. -/
def withoutDot (path : Path) : Path := ⟨(Text.dropPrefix? ['.', '/'] path.written).getD path.written⟩

/-- What is left of a path behind another one that its text starts with,
without a separator at the start. A path that does not start with the other
one is kept. -/
def textBehind (base path : Path) : Path :=
  match Text.dropPrefix? base.written path.written with
  | none => path
  | some rest => ⟨(Text.dropPrefix? ['/'] rest).getD rest⟩

end Path

end StateSheet
