import StateSheet.Text.Basic

/-!
# Valid candidates

A token can be a class name when its brackets and parentheses close as often
as they open, no markup character stands outside them, and it holds a letter.
It must not look like a path or end as if something were cut off.
-/

set_option autoImplicit false

namespace StateSheet.Candidate

/-- Does a character belong to markup or code rather than to a class name? -/
def isMarkup (c : Char) : Bool :=
  ['<', '>', '\x7b', '\x7d', '=', ';', '$', '"', '\'', '`'].contains c

/-- Are the brackets and parentheses of a text balanced from a depth on, with
no markup character outside them? The two kinds share one depth. -/
def isBalancedFrom (depth : Nat) : Text → Bool
  | [] => depth == 0
  | c :: rest =>
      if c = '[' ∨ c = '(' then isBalancedFrom (depth + 1) rest
      else if c = ']' ∨ c = ')' then depth != 0 && isBalancedFrom (depth - 1) rest
      else if isMarkup c && depth == 0 then false
      else isBalancedFrom depth rest

/-- May a token start like this? -/
def startsWell : Text → Bool
  | [] => false
  | c :: _ => c != '.' && c != '/'

/-- May a token end like this? -/
def endsWell (token : Text) : Bool :=
  match token.getLast? with
  | none => false
  | some c => c != ':' && c != '\\'

/-- Can a token be a class name? -/
def isValid (token : Text) : Bool :=
  startsWell token && endsWell token && isBalancedFrom 0 token && token.any Char.isAlpha

end StateSheet.Candidate
