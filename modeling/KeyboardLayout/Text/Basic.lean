/-!
# Text

Lines and whole files are lists of characters: a column is an index, an edit is an edit of a list,
and every length counts characters.
-/

namespace KeyboardLayout

/-- A text. A line of a drawing or of a driver file is a text without line feeds. -/
abbrev Text := List Char

namespace Text

def decimal (n : Nat) : Text :=
  Nat.toDigits 10 n

/-- The code point of a character in lowercase hexadecimal, with at least four digits. -/
def hex (c : Char) : Text :=
  (Nat.toDigits 16 c.toNat).leftpad 4 '0'

def hexUpper (c : Char) : Text :=
  (hex c).map Char.toUpper

/-- The text, filled up with spaces on the right to the width of a column. -/
def padRight (width : Nat) (t : Text) : Text :=
  t.rightpad width ' '

def join (separator : Text) (parts : List Text) : Text :=
  separator.intercalate parts

/-- The number of bytes that the text takes in UTF-8. -/
def utf8Length : Text → Nat
  | [] => 0
  | c :: rest => c.utf8Size + utf8Length rest

/-- The text is the other one but for the case of ASCII letters. -/
def eqIgnoringCase (s t : Text) : Bool :=
  s.map Char.toLower == t.map Char.toLower

/-- The rest of `t` behind `lead`, if `t` starts with it. -/
def after? : (lead t : Text) → Option Text
  | [], t => some t
  | _ :: _, [] => none
  | a :: lead, b :: t => if a = b then after? lead t else none

theorem after?_eq_some_iff {lead t rest : Text} :
    after? lead t = some rest ↔ t = lead ++ rest := by
  induction lead generalizing t with
  | nil => simp [after?]
  | cons a lead ih =>
    cases t with
    | nil => simp [after?]
    | cons b t =>
      by_cases h : a = b
      · simp [after?, h, ih]
      · simp [after?, h, Ne.symm h]

theorem length_of_after? {lead t rest : Text} (h : after? lead t = some rest) :
    lead.length + rest.length = t.length := by
  rw [after?_eq_some_iff.mp h, List.length_append]

end Text

end KeyboardLayout
