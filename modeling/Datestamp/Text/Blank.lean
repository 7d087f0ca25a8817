import Datestamp.Text.CharClass

/-!
# Blanks

Blank characters are those with the Unicode property `White_Space`. Trimming a text removes the
blanks at both its ends, and leaves those inside alone.
-/

namespace Datestamp.Text

/-- The characters with the property `White_Space`. -/
def whiteSpace : CharClass where
  changes := [
    0x9, 0xE, 0x20, 0x21, 0x85, 0x86, 0xA0, 0xA1, 0x1680, 0x1681, 0x2000, 0x200B, 0x2028, 0x202A,
    0x202F, 0x2030, 0x205F, 0x2060, 0x3000, 0x3001]

def isBlank (c : Char) : Bool := whiteSpace.contains c

/-- The text without the blanks at its end. -/
def trimEnd (t : Text) : Text := (t.reverse.dropWhile isBlank).reverse

/-- The text without the blanks at its two ends. -/
def trim (t : Text) : Text := trimEnd (t.dropWhile isBlank)

end Datestamp.Text
