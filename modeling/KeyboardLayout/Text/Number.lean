import KeyboardLayout.Text.Basic

/-!
# Numbers as texts

Natural numbers in any base up to sixteen, as they are read: digits only, at least one, of either
case, and no sign.
-/

namespace KeyboardLayout.Text

/-- The value of a digit of a base. -/
def digit? (base : Nat) (c : Char) : Option Nat :=
  let value :=
    if c.isDigit then some (c.toNat - '0'.toNat)
    else if 'a' ≤ c ∧ c ≤ 'f' then some (c.toNat - 'a'.toNat + 10)
    else if 'A' ≤ c ∧ c ≤ 'F' then some (c.toNat - 'A'.toNat + 10)
    else none
  value.filter (· < base)

def natural? (base : Nat) (t : Text) : Option Nat :=
  if t.isEmpty then none
  else t.foldlM (fun n c => (digit? base c).map (base * n + ·)) 0

/-- The integer fits into so many bits, one of which is a sign if it is negative. -/
def fitsBits (bits : Nat) (i : Int) : Bool :=
  if i < 0 then i.natAbs ≤ Nat.pow 2 (bits - 1) else i.natAbs < Nat.pow 2 bits

def charOfCode? (n : Nat) : Option Char :=
  if h : n.isValidChar then some (Char.ofNatAux n h) else none

/-- The character whose code point some hexadecimal digits write. -/
def charOfHex? (digits : Text) : Option Char :=
  (natural? 16 digits).bind charOfCode?

end KeyboardLayout.Text
