import KeyboardLayout.Text.Basic
import KeyboardLayout.Unicode.Range
import KeyboardLayout.Unicode.GraphemeExtend
import KeyboardLayout.Unicode.Unprintable

/-!
# Quoted text

How an error message shows a value: between double quotes, with what cannot be seen or cannot
stand alone written as an escape.
-/

namespace KeyboardLayout.Text.Quoted

def codePoint (c : Char) : Text :=
  "\\u\x7b".toList ++ Nat.toDigits 16 c.toNat ++ ['\x7d']

/-- The character is shown by its code point: it is not printable, or it attaches to the one
before it. -/
def isHidden (c : Char) : Bool :=
  Unicode.inRanges Unicode.graphemeExtend c || Unicode.inRanges Unicode.unprintable c

def encodeChar (c : Char) : Text :=
  match c with
  | '\x00' => "\\0".toList
  | '\t' => "\\t".toList
  | '\r' => "\\r".toList
  | '\n' => "\\n".toList
  | '"' => "\\\"".toList
  | '\\' => "\\\\".toList
  | c => if isHidden c then codePoint c else [c]

def encode (t : Text) : Text :=
  ['"'] ++ t.flatMap encodeChar ++ ['"']

end KeyboardLayout.Text.Quoted
