import KeyboardLayout.Text.Decimal

/-!
# The core schema

What a plain scalar without a tag stands for: null, a truth value, a number or, failing these, a
text. Integers may have a sign and the prefixes `0x`, `0o` and `0b`; digits behind an idle zero are
a text.
-/

namespace KeyboardLayout.Yaml

def isNull (t : Text) : Bool :=
  ["null", "Null", "NULL", "~"].any fun word => word.toList == t

def isBool (t : Text) : Bool :=
  ["true", "True", "TRUE", "false", "False", "FALSE"].any fun word => word.toList == t

/-- Digits that start with an idle zero, behind an optional sign. -/
def hasIdleZero (t : Text) : Bool :=
  let body := match t with
    | '-' :: rest | '+' :: rest => rest
    | _ => t
  match body with
  | '0' :: c :: rest => (c :: rest).all Char.isDigit
  | _ => false

/-! ## Integers -/

/-- A number without sign in one of the four notations. -/
def magnitude? (t : Text) : Option Nat :=
  match t with
  | '0' :: 'x' :: digits => Text.natural? 16 digits
  | '0' :: 'o' :: digits => Text.natural? 8 digits
  | '0' :: 'b' :: digits => Text.natural? 2 digits
  | digits => if hasIdleZero digits then none else Text.natural? 10 digits

/-- A number without a minus sign. -/
def unsigned? : Text → Option Nat
  | '+' :: rest => magnitude? rest
  | t => magnitude? t

def integer? : Text → Option Int
  | '-' :: rest => (magnitude? rest).map fun n => -(n : Int)
  | t => (unsigned? t).map Int.ofNat

/-! ## Floating-point numbers -/

/-- The text is a floating-point number: an infinity, not a number, or finite. -/
def isFloat (t : Text) : Bool :=
  let named (words : List String) (t : Text) := words.any fun word => word.toList == t
  let body := match t with
    | '+' :: rest => rest
    | _ => t
  named [".nan", ".NaN", ".NAN"] t || named ["-.inf", "-.Inf", "-.INF"] t ||
    named [".inf", ".Inf", ".INF"] body ||
    match t with
    | '+' :: rest | '-' :: rest => (Text.Decimal.ofText? rest).any Text.Decimal.isFinite
    | _ => (Text.Decimal.ofText? t).any Text.Decimal.isFinite

/-! ## Resolution -/

/-- What a scalar stands for. -/
inductive Kind
  | null | bool | integer | float | text
  deriving DecidableEq, Repr

/-- A text as an integer: an integer of more than 64 bits is refused, and one of more than 128 bits
is none. -/
def integerKind? (t : Text) : Option (Option Kind) :=
  match integer? t with
  | none => none
  | some i =>
    if Text.fitsBits 64 i then some (some .integer)
    else if Text.fitsBits 128 i then some none
    else none

/-- What a plain scalar without a tag stands for, or nothing if it is refused. -/
def plainKind (t : Text) : Option Kind :=
  if t.isEmpty || isNull t then some .null
  else if isBool t then some .bool
  else
    match integerKind? t with
    | some kind => kind
    | none => if !hasIdleZero t && isFloat t then some .float else some .text

end KeyboardLayout.Yaml
