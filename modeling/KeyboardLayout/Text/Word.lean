import KeyboardLayout.Text.Basic
import KeyboardLayout.Unicode.Range
import KeyboardLayout.Unicode.Word

/-!
# Word boundaries

A boundary lies between a word character and something else; the ends of a text count as
something else.
-/

namespace KeyboardLayout.Text

def isWordChar (c : Char) : Bool :=
  Unicode.inRanges Unicode.word c

/-- There is a word boundary between two neighbours, either of which may be missing. -/
def isBoundary (before after : Option Char) : Bool :=
  before.any isWordChar != after.any isWordChar

end KeyboardLayout.Text
