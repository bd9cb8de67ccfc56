import KeyboardLayout.Json
import KeyboardLayout.Layout.Basic
import KeyboardLayout.Text.Casing

/-!
# Web keymaps

The layout as a browser widget reads it: what each key types at four levels, and the table of each
dead key. A dead key is written as an asterisk and its glyph.
-/

namespace KeyboardLayout

structure WebKeymap where
  name : Text
  description : Text
  geometry : Text
  /-- The symbols of each key that types anything. -/
  keymap : Table Text (List Text)
  /-- The table of each dead key. -/
  deadKeys : Table Text (Table Text Text)

namespace WebKeymap

/-- The levels of a keymap entry. -/
def levels : List Level :=
  [.base, .shift, .altGr, .altGrShift]

def symbol (layout : Layout) (c : Char) : Text :=
  match layout.deadKey? c with
  | some dk => ['*', dk.glyph]
  | none => [c]

/-- What a key types at each level; nothing stands for the levels at the end on which it types
nothing, and an empty text for the others. -/
def symbols (layout : Layout) (key : Key) : List Text :=
  let all := levels.map fun level =>
    ((layout.symbol key level).map (symbol layout)).getD []
  (all.reverse.dropWhile List.isEmpty).reverse

/-- The entries of the keys that type anything. -/
def keyRows (layout : Layout) : List (Text × List Text) :=
  (Key.all.map fun key => ((layout.registry.keyCodes key).web, symbols layout key)).filter
    fun row => !row.2.isEmpty

def deadKeyTable (layout : Layout) (dk : DeadKey) : Table Text Text :=
  Table.ofRows (dk.pairs.map fun pair => (symbol layout pair.1, symbol layout pair.2))

def ofLayout (layout : Layout) : WebKeymap where
  name := layout.metadata.name
  description := layout.metadata.description
  geometry := Text.lower layout.geometry.name
  keymap := Table.ofRows (keyRows layout)
  deadKeys := Table.ofRows (layout.deadKeys.map fun dk =>
    (symbol layout dk.marker, deadKeyTable layout dk))

/-- The web keymap as a JSON document. -/
def json (web : WebKeymap) : Json :=
  .object [
    ("name".toList, .string web.name),
    ("description".toList, .string web.description),
    ("geometry".toList, .string web.geometry),
    ("keymap".toList, .object (web.keymap.map fun row =>
      (row.1, .array (row.2.map .string)))),
    ("deadkeys".toList, .object (web.deadKeys.map fun row =>
      (row.1, .object (row.2.map fun pair => (pair.1, .string pair.2)))))]

def text (web : WebKeymap) : Text :=
  web.json.render

end WebKeymap

end KeyboardLayout
