import KeyboardLayout.Text.Basic

/-!
# Characters in XML attributes

A character that would end or break an attribute value, and the no-break space, which an editor
would lose, are written as numeric references.
-/

namespace KeyboardLayout.Text

/-- The characters that an attribute value does not show as themselves. -/
def xmlSpecial : List Char :=
  ['<', '&', '"', '\u00a0', '>']

def xml (c : Char) : Text :=
  if c ∈ xmlSpecial then "&#x".toList ++ hex c ++ [';'] else [c]

end KeyboardLayout.Text
