import KeyboardLayout.Text.Number

/-!
# Decimal numbers

Decimal numbers with a fraction and a power of ten, as floating-point numbers are written, and
whether such a number has a finite double-precision float next to it.
-/

namespace KeyboardLayout.Text

/-- A decimal number: the digits before and behind the point, and the power of ten. -/
structure Decimal where
  whole : Text
  fraction : Text
  exponent : Int
  deriving DecidableEq, Repr

namespace Decimal

def exponent? : Text → Option Int
  | '-' :: digits => (natural? 10 digits).map fun n => -(n : Int)
  | '+' :: digits => (natural? 10 digits).map Int.ofNat
  | digits => (natural? 10 digits).map Int.ofNat

/-- The decimal number without sign that a text writes. -/
def ofText? (t : Text) : Option Decimal := do
  let whole := t.takeWhile Char.isDigit
  let rest := t.dropWhile Char.isDigit
  let (fraction, rest) := match rest with
    | '.' :: rest => (rest.takeWhile Char.isDigit, rest.dropWhile Char.isDigit)
    | rest => ([], rest)
  if whole.isEmpty && fraction.isEmpty then none
  match rest with
  | [] => return ⟨whole, fraction, 0⟩
  | 'e' :: rest | 'E' :: rest => (exponent? rest).map (⟨whole, fraction, ·⟩)
  | _ => none

/-- The least number that a double-precision float rounds to infinity. -/
def overflow : Nat :=
  (Nat.pow 2 54 - 1) * Nat.pow 2 970

/-- The number is below that bound. All powers of ten up to 308 are, and none beyond. -/
def isFinite (d : Decimal) : Bool :=
  let digits := (d.whole ++ d.fraction).dropWhile (· == '0')
  let shift := d.exponent - d.fraction.length
  let size := shift + digits.length
  if digits.isEmpty || size ≤ 308 then true
  else if 309 < size then false
  else
    match natural? 10 digits with
    | none => true
    | some n =>
      if 0 ≤ shift then n * Nat.pow 10 shift.toNat < overflow
      else n < overflow * Nat.pow 10 (-shift).toNat

end Decimal

end KeyboardLayout.Text
