import StateSheet.Text.Basic

/-!
# Variants

A variant says on which state of which element a class takes effect: the
element that carries the class, an enclosing element marked as a group, or a
preceding sibling marked as a peer, being in a state or, when negated, not
being in it.

The relation and the negation together are the family of a variant. Each of
the six families has an opening, and the name of a variant is the opening of
its family followed by the state (`Variant.name`).
-/

set_option autoImplicit false

namespace StateSheet

/-- The element whose state a variant looks at. -/
inductive Relation where
  /-- The element that carries the class. -/
  | self
  /-- An enclosing element marked as a group. -/
  | group
  /-- A preceding sibling marked as a peer. -/
  | peer
deriving DecidableEq, Repr

/-- A state, the element it is a state of, and whether it has to be absent. -/
structure Variant where
  relation : Relation
  negated : Bool
  state : Text
deriving DecidableEq, Repr

/-- The six combinations of a relation with a negation. -/
inductive Family where
  | state
  | notState
  | group
  | notGroup
  | peer
  | notPeer
deriving DecidableEq, Repr

namespace Family

/-- All families, each relation with its negation after it. -/
def all : List Family := [state, notState, group, notGroup, peer, notPeer]

/-- The relation of a family. -/
def relation : Family → Relation
  | state | notState => .self
  | group | notGroup => .group
  | peer | notPeer => .peer

/-- Does a family negate its state? -/
def negated : Family → Bool
  | state | group | peer => false
  | notState | notGroup | notPeer => true

/-- The family with a relation and a negation. -/
def of : Relation → Bool → Family
  | .self, false => state
  | .self, true => notState
  | .group, false => group
  | .group, true => notGroup
  | .peer, false => peer
  | .peer, true => notPeer

/-- The text in front of the state in the names of a family. -/
def opening : Family → Text
  | state => ['u', 'i', '-']
  | notState => ['u', 'i', '-', 'n', 'o', 't', '-']
  | group => ['u', 'i', '-', 'g', 'r', 'o', 'u', 'p', '-']
  | notGroup => ['u', 'i', '-', 'n', 'o', 't', '-', 'g', 'r', 'o', 'u', 'p', '-']
  | peer => ['u', 'i', '-', 'p', 'e', 'e', 'r', '-']
  | notPeer => ['u', 'i', '-', 'n', 'o', 't', '-', 'p', 'e', 'e', 'r', '-']

/-- The variant name of a state in a family. -/
def name (family : Family) (state : Text) : Text := family.opening ++ state

/-- The variant of a state in a family. -/
def variant (family : Family) (state : Text) : Variant :=
  { relation := family.relation, negated := family.negated, state }

/-- Every family is listed. -/
theorem mem_all (family : Family) : family ∈ all := by cases family <;> simp [all]

/-- A family is given by its relation and its negation. -/
@[simp] theorem of_relation_negated (family : Family) :
    of family.relation family.negated = family := by cases family <;> rfl

@[simp] theorem relation_of (relation : Relation) (negated : Bool) :
    (of relation negated).relation = relation := by cases relation <;> cases negated <;> rfl

@[simp] theorem negated_of (relation : Relation) (negated : Bool) :
    (of relation negated).negated = negated := by cases relation <;> cases negated <;> rfl

end Family

namespace Variant

/-- The family of a variant. -/
def family (variant : Variant) : Family := Family.of variant.relation variant.negated

/-- The name of a variant. -/
def name (variant : Variant) : Text := variant.family.name variant.state

/-- A variant is given by its family and its state. -/
@[simp] theorem variant_family (variant : Variant) :
    variant.family.variant variant.state = variant := by
  simp [family, Family.variant]

@[simp] theorem family_variant (family : Family) (state : Text) :
    (family.variant state).family = family := by
  simp [Variant.family, Family.variant]

end Variant

end StateSheet
