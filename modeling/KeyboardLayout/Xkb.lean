import KeyboardLayout.Layout.Basic
import KeyboardLayout.Sectioned
import KeyboardLayout.Text.Blank
import KeyboardLayout.Text.Casing

/-!
# XKB symbols

One `key` statement for each key, with the symbols of all six levels. A character is written as
the keysym of its dead key, as its X11 name if that fits the column, or by its code point.
-/

namespace KeyboardLayout.Xkb

/-- The width of a symbol column; no symbol is wider. -/
def symbolWidth : Nat := 16

/-- What stands for a level at which the key produces nothing. -/
def void : Text :=
  "VoidSymbol".toList

/-- The X11 name of a character, if it fits the column. -/
def keysym? (registry : Registry) (c : Char) : Option Text :=
  (registry.xkbName? c).filter fun name =>
    (Text.utf8Length name) ≤ symbolWidth

def symbol (layout : Layout) (c : Char) : Text :=
  match layout.deadKey? c with
  | some dk => dk.xkbSymbol
  | none => (keysym? layout.registry c).getD ('U' :: Text.hexUpper c)

/-- The character that a comment shows for a character: a dead key shows what it types. -/
def described (layout : Layout) (c : Char) : Char :=
  match layout.deadKey? c with
  | some dk => if dk.isLayoutDefined then dk.altSpace else dk.altSelf
  | none => c

def symbolAt (layout : Layout) (key : Key) (level : Level) : Text :=
  ((layout.symbol key level).map (symbol layout)).getD void

/-- What the comment shows for a key at a level. -/
def describedAt (layout : Layout) (key : Key) (level : Level) : Char :=
  ((layout.symbol key level).map (described layout)).getD ' '

/-- The symbol columns of some levels. -/
def columns (layout : Layout) (key : Key) (levels : List Level) : Text :=
  Text.join ", ".toList (levels.map fun level => (symbolAt layout key level).padRight symbolWidth)

/-- The comment of a key: what it types at each level. -/
def comment (layout : Layout) (key : Key) : Text :=
  Text.trimRight (" //".toList ++ Level.all.flatMap fun level => [' ', describedAt layout key level])

def statement (layout : Layout) (key : Key) : Text :=
  "key <".toList ++ Text.upper key.name ++ "> \x7b[ ".toList ++
    columns layout key [.base, .shift, .deadKey, .deadKeyShift] ++ "],[ ".toList ++
    columns layout key [.altGr, .altGrShift] ++ "]\x7d;".toList

/-- The statement of a key, with its comment if that is asked for. -/
def line (layout : Layout) (showDescription : Bool) (key : Key) : Text :=
  statement layout key ++ if showDescription then comment layout key else []

def lines (layout : Layout) (showDescription : Bool) : List Text :=
  Sectioned.listing Sectioned.slashTitle fun key => [line layout showDescription key]

end KeyboardLayout.Xkb
