import KeyboardLayout.Text.Basic

/-!
# JSON documents

Values as the web keymap needs them, with the fields of an object in their order, and their text
with two spaces of indentation for each level.
-/

namespace KeyboardLayout

inductive Json where
  | string (text : Text)
  | array (items : List Json)
  | object (fields : List (Text × Json))

namespace Json

/-- A character of a JSON string. -/
def escapeChar (c : Char) : Text :=
  match c with
  | '"' => "\\\"".toList
  | '\\' => "\\\\".toList
  | '\x08' => "\\b".toList
  | '\x0c' => "\\f".toList
  | '\n' => "\\n".toList
  | '\r' => "\\r".toList
  | '\t' => "\\t".toList
  | c => if c.toNat < 0x20 then "\\u".toList ++ Text.hex c else [c]

def quote (t : Text) : Text :=
  ['"'] ++ t.flatMap escapeChar ++ ['"']

/-- The start of a line at some depth. -/
def newline (depth : Nat) : Text :=
  '\n' :: List.replicate (2 * depth) ' '

/-- Entries on lines of their own between brackets; without entries the brackets meet. -/
def bracketed (opening closing : Char) (depth : Nat) (entries : List Text) : Text :=
  if entries.isEmpty then [opening, closing]
  else
    opening :: newline (depth + 1) ++ Text.join (',' :: newline (depth + 1)) entries ++
      newline depth ++ [closing]

mutual

/-- The text of a value that stands at some depth. -/
def renderAt (depth : Nat) : Json → Text
  | string text => quote text
  | array items => bracketed '[' ']' depth (renderItems (depth + 1) items)
  | object fields => bracketed '\x7b' '\x7d' depth (renderFields (depth + 1) fields)

/-- The texts of the items of an array. -/
def renderItems (depth : Nat) : List Json → List Text
  | [] => []
  | item :: rest => renderAt depth item :: renderItems depth rest

/-- The texts of the fields of an object. -/
def renderFields (depth : Nat) : List (Text × Json) → List Text
  | [] => []
  | (name, value) :: rest =>
    (quote name ++ ": ".toList ++ renderAt depth value) :: renderFields depth rest

end

def render (value : Json) : Text :=
  renderAt 0 value

end Json

end KeyboardLayout
