import KeyboardLayout.Text.Basic
import KeyboardLayout.Unicode.Range
import KeyboardLayout.Unicode.WhiteSpace

/-!
# Blank text

Which texts count as empty for the user: those of white space only, in the sense of Unicode.
-/

namespace KeyboardLayout.Text

/-- White space in the sense of Unicode. -/
def isBlankChar (c : Char) : Bool :=
  Unicode.inRanges Unicode.whiteSpace c

def isBlank (t : Text) : Bool :=
  t.all isBlankChar

def trimRight (t : Text) : Text :=
  (t.reverse.dropWhile isBlankChar).reverse

def trim (t : Text) : Text :=
  trimRight (t.dropWhile isBlankChar)

end KeyboardLayout.Text
