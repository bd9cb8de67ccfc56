import KeyboardLayout.Text.Basic

/-!
# UTF-16, little-endian, with DOS line ends

The encoding of the sources that the Windows layout compiler reads. A character of the basic plane
is one unit, any other one a pair of surrogates; each unit is two bytes, low byte first.
-/

namespace KeyboardLayout.Text.Utf16

def units (c : Char) : List Nat :=
  if c.toNat < 0x10000 then [c.toNat]
  else [0xD800 + (c.toNat - 0x10000) / 0x400, 0xDC00 + (c.toNat - 0x10000) % 0x400]

/-- The two bytes of a code unit. -/
def bytes (unit : Nat) : List UInt8 :=
  [UInt8.ofNat (unit % 0x100), UInt8.ofNat (unit / 0x100)]

/-- The text in UTF-16, low bytes first. -/
def encode (t : Text) : List UInt8 :=
  (t.flatMap units).flatMap bytes

/-- The code units of a sequence of bytes; there are none if a byte is left over. -/
def units? : List UInt8 → Option (List Nat)
  | [] => some []
  | [_] => none
  | low :: high :: rest => (units? rest).map ((low.toNat + 0x100 * high.toNat) :: ·)

/-- The unit is the first of a pair of surrogates. -/
def isHigh (unit : Nat) : Bool :=
  0xD800 ≤ unit && unit < 0xDC00

/-- The unit is the second of a pair of surrogates. -/
def isLow (unit : Nat) : Bool :=
  0xDC00 ≤ unit && unit < 0xE000

/-- The characters of a sequence of code units; a surrogate without its partner is refused. -/
def chars? : List Nat → Option Text
  | [] => some []
  | u :: rest =>
    if isLow u then none
    else if isHigh u then
      match rest with
      | v :: rest =>
        if isLow v then
          (chars? rest).map (Char.ofNat (0x10000 + 0x400 * (u - 0xD800) + (v - 0xDC00)) :: ·)
        else none
      | [] => none
    else (chars? rest).map (Char.ofNat u :: ·)

def decode? (data : List UInt8) : Option Text :=
  (units? data).bind chars?

/-- Line ends without their carriage returns. -/
def toUnixLines : Text → Text
  | '\r' :: '\n' :: rest => '\n' :: toUnixLines rest
  | c :: rest => c :: toUnixLines rest
  | [] => []

/-- A carriage return before each line feed. -/
def toDosLines (t : Text) : Text :=
  t.flatMap fun c => if c = '\n' then ['\r', '\n'] else [c]

/-- The bytes of a Windows source: DOS line ends in UTF-16. -/
def encodeDos (t : Text) : List UInt8 :=
  encode (toDosLines (toUnixLines t))

end KeyboardLayout.Text.Utf16
