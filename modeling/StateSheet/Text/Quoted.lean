import StateSheet.Text.Concealed

/-!
# Quoted texts

The form in which a report shows a text: between double quotes, with the
quotes, backslashes, line ends, tabs and NULs of the text written as escapes,
and a character without a form of its own written as its code point.
-/

set_option autoImplicit false

namespace StateSheet.Text

/-- One character as it stands in a quoted text. -/
def quotedChar (c : Char) : Text :=
  if c = '"' then ['\\', '"']
  else if c = '\\' then ['\\', '\\']
  else if c = '\n' then ['\\', 'n']
  else if c = '\r' then ['\\', 'r']
  else if c = '\t' then ['\\', 't']
  else if c = Char.ofNat 0 then ['\\', '0']
  else if isConcealed c then ['\\', 'u', '\x7b'] ++ Nat.toDigits 16 c.toNat ++ ['\x7d']
  else [c]

/-- A text as a report shows it. -/
def quoted (text : Text) : Text := ['"'] ++ text.flatMap quotedChar ++ ['"']

end StateSheet.Text
