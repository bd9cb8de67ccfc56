/-!
# Ranges of code points

A Unicode property is a list of ranges, and a character has it when a range holds it.
-/

namespace KeyboardLayout.Unicode

/-- A range of code points, both ends included. -/
abbrev Range := Nat × Nat

def Range.holds (r : Range) (n : Nat) : Bool :=
  r.1 ≤ n && n ≤ r.2

/-- The character lies in one of the ranges. -/
def inRanges (ranges : List Range) (c : Char) : Bool :=
  ranges.any fun r => Range.holds r c.toNat

end KeyboardLayout.Unicode
