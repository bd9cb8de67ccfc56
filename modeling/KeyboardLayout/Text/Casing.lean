import KeyboardLayout.Text.Basic
import KeyboardLayout.Unicode.Range
import KeyboardLayout.Unicode.Cased
import KeyboardLayout.Unicode.CaseIgnorable
import KeyboardLayout.Unicode.Lowercase
import KeyboardLayout.Unicode.Uppercase

/-!
# Upper and lower case

The full case mappings of Unicode, on characters and on whole texts. A character may become
several; `single?` says when it becomes just one. In a whole text a capital sigma that ends a word
becomes the final sigma.
-/

namespace KeyboardLayout.Text

def upperChar (c : Char) : Text :=
  Unicode.uppercaseMap.apply c

def lowerChar (c : Char) : Text :=
  Unicode.lowercaseMap.apply c

/-- The character that a text consists of, if it is just one. -/
def single? : Text → Option Char
  | [c] => some c
  | _ => none

def upper (t : Text) : Text :=
  t.flatMap upperChar

/-- The nearest character that case mapping does not look through is a cased one. -/
def meetsCased (t : Text) : Bool :=
  ((t.dropWhile (Unicode.inRanges Unicode.caseIgnorable)).head?.map
    (Unicode.inRanges Unicode.cased)).getD false

/-- The full lowercase of `t`, where `before` is what precedes it, nearest character first. -/
def lowerAfter (before : Text) : Text → Text
  | [] => []
  | c :: rest =>
    (if c = 'Σ' then [if meetsCased before && !meetsCased rest then 'ς' else 'σ']
      else lowerChar c) ++ lowerAfter (c :: before) rest

def lower (t : Text) : Text :=
  lowerAfter [] t

end KeyboardLayout.Text
