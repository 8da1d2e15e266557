import StateSheet.Text.Blank
import StateSheet.Text.Nesting

/-!
# Class lists

The tokens of a class list stand between the blanks at the top: a blank inside
brackets or parentheses belongs to its token. The nesting runs on from one
token to the next.
-/

set_option autoImplicit false

namespace StateSheet.Candidate

/-- The tokens of a class list that continues a token already begun, whose
characters are held in reverse, at the given nesting. -/
def tokensAfter (nesting : Nesting) (begun : Text) : Text → List Text
  | [] => if begun = [] then [] else [begun.reverse]
  | c :: rest =>
      let reached := nesting.step c
      if isBlank c && reached.isTop then
        if begun = [] then tokensAfter reached [] rest
        else begun.reverse :: tokensAfter reached [] rest
      else tokensAfter reached (c :: begun) rest

/-- The tokens of a class list. -/
def tokens (classList : Text) : List Text := tokensAfter {} [] classList

end StateSheet.Candidate
