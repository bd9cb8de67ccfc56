import KeyboardLayout.Text.Basic

/-!
# Combining marks in drawings

A combining mark cannot be drawn alone in a grid of columns. A drawing shows it after a padding
space, so that it takes two characters where the grid has one; `mergeMarks` folds each mark onto
the character before it, and `splitMarks` puts the padding back.
-/

namespace KeyboardLayout.Text

/-- The blocks of combining diacritical marks. -/
def markBlocks : List (Nat × Nat) :=
  [(0x0300, 0x036F), (0x1AB0, 0x1AFF), (0x1DC0, 0x1DFF), (0x20D0, 0x20FF), (0xFE20, 0xFE2F)]

def isMark (c : Char) : Bool :=
  markBlocks.any fun block => block.1 ≤ c.toNat && c.toNat ≤ block.2

/-- Folds the marks of a text onto what precedes them, where `last` is the character written
last. -/
def mergeMarksAfter (last : Char) : Text → Text
  | [] => [last]
  | c :: rest =>
    if isMark c then mergeMarksAfter c rest
    else last :: mergeMarksAfter c rest

/-- Each combining mark takes the place of the character before it; a mark at the very start
stays. -/
def mergeMarks : Text → Text
  | [] => []
  | c :: rest => mergeMarksAfter c rest

/-- A space before each combining mark. -/
def splitMarks (t : Text) : Text :=
  t.flatMap fun c => if isMark c then [' ', c] else [c]

/-- Drawn lines as text: each line but an empty one is indented and gets its marks padded. -/
def ofLines (lines : List Text) (indent : Text) : Text :=
  join ['\n'] (lines.map fun line => if line.isEmpty then [] else indent ++ splitMarks line)

end KeyboardLayout.Text
