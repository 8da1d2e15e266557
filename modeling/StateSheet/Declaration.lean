import StateSheet.Text.Blank

/-!
# Declarations

A utility is given by declarations in one text, separated by semicolons. Each
is a property, a colon and a value, without the blanks around either; a piece
that lacks the colon, the property or the value is no declaration.
-/

set_option autoImplicit false

namespace StateSheet

/-- A property and the value it is given. -/
structure Declaration where
  property : Text
  value : Text
deriving DecidableEq, Repr

namespace Declaration

/-- The declaration that one piece of a text makes. -/
def read? (piece : Text) : Option Declaration :=
  match piece.cut? ':' with
  | none => none
  | some (before, after) =>
      let property := before.trim
      let value := after.trim
      if property = [] ∨ value = [] then none else some { property, value }

/-- The declarations that a text makes, in order. -/
def readAll (text : Text) : List Declaration := (text.pieces ';').filterMap read?

end Declaration

end StateSheet
