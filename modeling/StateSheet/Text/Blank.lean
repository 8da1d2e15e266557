import StateSheet.Text.Basic

/-!
# Blank characters

The characters with the Unicode property `White_Space`, and the two readings
of a text that depend on them: the text without the blanks at its ends, and
the words that stand between its blanks.
-/

set_option autoImplicit false

namespace StateSheet

/-- The ranges of code points with the Unicode property `White_Space`. -/
def blankRanges : List (Nat × Nat) :=
  [(0x0009, 0x000D), (0x0020, 0x0020), (0x0085, 0x0085), (0x00A0, 0x00A0), (0x1680, 0x1680),
   (0x2000, 0x200A), (0x2028, 0x2029), (0x202F, 0x202F), (0x205F, 0x205F), (0x3000, 0x3000)]

/-- Does a character have the Unicode property `White_Space`? -/
def isBlank (c : Char) : Bool :=
  blankRanges.any fun range => range.1 ≤ c.toNat && c.toNat ≤ range.2

namespace Text

/-- A text without the blanks at its start. -/
def trimStart (text : Text) : Text := text.dropWhile isBlank

/-- A text without the blanks at its end. -/
def trimEnd (text : Text) : Text := (text.reverse.dropWhile isBlank).reverse

/-- A text without the blanks at either end. -/
def trim (text : Text) : Text := text.trimStart.trimEnd

/-- The words of a text that continues a word already begun, whose characters
are held in reverse. -/
def wordsAfter (begun : Text) : Text → List Text
  | [] => if begun = [] then [] else [begun.reverse]
  | c :: rest =>
      if isBlank c then
        if begun = [] then wordsAfter [] rest else begun.reverse :: wordsAfter [] rest
      else wordsAfter (c :: begun) rest

/-- The words of a text: its longest stretches free of blanks. -/
def words (text : Text) : List Text := wordsAfter [] text

/-- A text with every stretch of blanks reduced to one space, and none at its
ends. -/
def collapsed (text : Text) : Text := [' '].intercalate text.words

end Text

end StateSheet
