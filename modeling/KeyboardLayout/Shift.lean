import KeyboardLayout.Text.Casing

/-!
# Shift partners

A drawing leaves out what the reader can derive: a blank shifted cell takes the shift partner of
the other cell, and a blank base cell takes the base partner. For letters these are the cases of
Unicode; a few symbols have partners of their own.
-/

namespace KeyboardLayout

/-- The character of a blank cell: the key produces nothing there. -/
def blank : Char := ' '

/-- Symbols whose shift partner is not their uppercase. -/
def shiftPairs : List (Char × Char) :=
  [('ß', 'ẞ'), ('|', '¦'), ('<', '≤'), ('>', '≥'), ('†', '‡'), ('←', '⇐'), ('↑', '⇑'),
    ('→', '⇒'), ('↓', '⇓')]

/-- The uppercase of a character, if it is one character. -/
def singleUpper? (c : Char) : Option Char :=
  Text.single? (Text.upperChar c)

/-- The lowercase of a character, if it is one character. -/
def singleLower? (c : Char) : Option Char :=
  Text.single? (Text.lowerChar c)

/-- The shift partner of a cased letter: its uppercase, where the case of the letter shows. A
character without case has the blank. -/
def letterPartner (c : Char) : Char :=
  match singleUpper? c, singleLower? c with
  | some upper, some lower => if upper = lower then blank else upper
  | some upper, none => upper
  | none, _ => blank

/-- The shift partner of a symbol, or the blank if none can be derived. -/
def shiftPartner (c : Char) : Char :=
  (shiftPairs.lookup c).getD (letterPartner c)

/-- The base partner of a shifted symbol: its lowercase, or the symbol itself. -/
def basePartner (c : Char) : Char :=
  (singleLower? c).getD c

end KeyboardLayout
