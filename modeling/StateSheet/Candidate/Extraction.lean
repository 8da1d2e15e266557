import StateSheet.Candidate.Attribute
import StateSheet.Candidate.ClassList
import StateSheet.Candidate.Valid
import StateSheet.Text.Distinct

/-!
# Extraction

The class candidates of a text of any language: the valid tokens of its class
attributes and then of all its string literals, each where it first occurs.
-/

set_option autoImplicit false

namespace StateSheet.Candidate

/-- The texts that may hold class lists: the values of class attributes, and
the string literals. -/
def classLists (text : Text) : List Text :=
  attributeNames.flatMap (attributeValues · text) ++ literals text

/-- The class candidates of a text. -/
def extract (text : Text) : List Text :=
  distinct (((classLists text).flatMap tokens).filter isValid)

end StateSheet.Candidate
