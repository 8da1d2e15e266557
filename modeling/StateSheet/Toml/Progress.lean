import StateSheet.Text.Basic

/-!
# Readers

A reader takes something from the start of a text and leaves a shorter rest.
That the rest is shorter is part of its result, so whoever repeats a reader
comes to an end.
-/

set_option autoImplicit false

namespace StateSheet.Toml

/-- A rest that is shorter than a text. -/
structure Remaining (text : Text) where
  rest : Text
  shorter : rest.length < text.length

/-- What remains of a part remains of the longer text. -/
def Remaining.within {part text : Text} (remaining : Remaining part)
    (shorter : part.length < text.length) : Remaining text :=
  ⟨remaining.rest, Nat.lt_trans remaining.shorter shorter⟩

/-- Takes something from the start of a text and leaves a shorter rest. -/
abbrev Reader (α : Type) := (text : Text) → Option (α × Remaining text)

end StateSheet.Toml
