import StateSheet.Candidate.Quoted
import StateSheet.Text.Blank

/-!
# Class attributes

The places of a text where an attribute that holds classes is given a quoted
value. The name of the attribute has to stand by itself: at the start of the
text or behind a blank or one of the characters that open markup or an
expression, and with a blank, an equals sign or nothing behind it. The
equals sign and the quote may have blanks before them.
-/

set_option autoImplicit false

namespace StateSheet.Candidate

/-- The attributes that hold classes, in the order in which they are looked
for. -/
def attributeNames : List Text :=
  ["class".toList, "className".toList, "class:list".toList, ":class".toList]

/-- May an attribute name stand behind this character? -/
def opensAttribute : Option Char → Bool
  | none => true
  | some c => isBlank c || c == '<' || c == '\x7b' || c == '(' || c == ','

/-- May this text follow an attribute name? -/
def closesAttribute : Text → Bool
  | [] => true
  | c :: _ => isBlank c || c == '='

/-- The quoted value given by a text that follows an attribute name. -/
def valueBehindName? (text : Text) : Option Text :=
  match text.trimStart with
  | '=' :: assigned =>
      match Text.trimStart assigned with
      | quote :: body => if isQuote quote then (readBody? quote body).map (·.1) else none
      | [] => none
  | _ => none

/-- The quoted value given to an attribute at the start of a text, behind the
given character. -/
def valueAt? (name : Text) (behind : Option Char) (text : Text) : Option Text :=
  match Text.dropPrefix? name text with
  | none => none
  | some rest =>
      if opensAttribute behind && closesAttribute rest then valueBehindName? rest else none

/-- The quoted values given to an attribute in a text that stands behind the
given character. -/
def attributeValuesBehind (name : Text) : Option Char → Text → List Text
  | _, [] => []
  | behind, c :: rest =>
      match valueAt? name behind (c :: rest) with
      | some value => value :: attributeValuesBehind name (some c) rest
      | none => attributeValuesBehind name (some c) rest

/-- The quoted values given to an attribute in a text, in order. -/
def attributeValues (name text : Text) : List Text := attributeValuesBehind name none text

end StateSheet.Candidate
