import KeyboardLayout.Layer
import KeyboardLayout.Level
import KeyboardLayout.Registry.Basic
import KeyboardLayout.Text.Marks

/-!
# Layouts

A layout holds six layers and the dead keys that they use, in the order in which they were first
met. `store` writes one symbol and notes the dead key that it may be; `complete` gives every dead
key its final table once all layers are there.
-/

namespace KeyboardLayout

/-- The descriptive fields of a layout. -/
structure Metadata where
  /-- The short name, which also names the files. -/
  name : Text := []
  description : Text := []
  locale : Text := []
  /-- The name of the XKB variant. -/
  variant : Text := []
  author : Text := []
  version : Text := []
  deriving DecidableEq, Repr

/-- What goes wrong with a layout. -/
inductive LayoutError
  /-- The source is not a document of the expected shape. -/
  | malformedSource
  /-- No board of the registry has that name. -/
  | unknownGeometry (name : Text) (available : List Text)
  /-- A drawing has no character where a key should have one. -/
  | outOfBounds (key : Key) (line column : Nat) (geometry : Text)
  /-- A combining mark is no dead key of the registry. -/
  | unregisteredDeadKey (marker : Char) (key : Key)
  /-- macOS has no keymap of that number. -/
  | unsupportedKeymap (index : Nat)
  deriving DecidableEq, Repr

def LayoutError.message : LayoutError → Text
  | malformedSource => "Invalid layout source:".toList
  | unknownGeometry name available =>
    "Unknown geometry '".toList ++ name ++ "' (available: ".toList ++
      Text.join ", ".toList available ++ ")".toList
  | outOfBounds key line column geometry =>
    "Key ".toList ++ key.name ++ " is outside the template: line ".toList ++ Text.decimal line ++
      ", column ".toList ++ Text.decimal column ++ " (does the layout match the '".toList ++
      geometry ++ "' geometry?)".toList
  | unregisteredDeadKey marker key =>
    "Unregistered dead key U+".toList ++ Text.hexUpper marker ++ " on key ".toList ++ key.name
  | unsupportedKeymap index =>
    "Unsupported macOS keymap level ".toList ++ Text.decimal index ++
      " (expected 0, 1, 2, 4 or 5)".toList

def Registry.geometry (registry : Registry) (name : Text) : Except LayoutError Geometry :=
  match registry.geometry? name with
  | some geometry => .ok geometry
  | none => .error (.unknownGeometry name registry.geometryNames)

structure Layout where
  metadata : Metadata
  /-- The board that the layout is drawn on. -/
  geometry : Geometry
  /-- One layer for each level. -/
  layers : Vector Layer 6
  /-- The dead keys that the layers use, in the order of their first use. -/
  deadKeys : List DeadKey
  registry : Registry

namespace Layout

def empty (metadata : Metadata) (geometry : Geometry) (registry : Registry) : Layout :=
  ⟨metadata, geometry, Vector.replicate 6 .empty, [], registry⟩

/-- The empty layout on the board of that name. -/
def new (metadata : Metadata) (geometry : Text) (registry : Registry) :
    Except LayoutError Layout :=
  (registry.geometry geometry).map fun geometry => empty metadata geometry registry

def layer (layout : Layout) (level : Level) : Layer :=
  layout.layers[level.index]

/-- What the key produces at the level. -/
def symbol (layout : Layout) (key : Key) (level : Level) : Option Char :=
  (layout.layer level).get key

/-- The dead key of the layout that the character stands for. -/
def deadKey? (layout : Layout) (symbol : Char) : Option DeadKey :=
  layout.deadKeys.find? (·.marker == symbol)

/-- The character stands for a dead key of the layout. -/
def isDeadKey (layout : Layout) (symbol : Char) : Bool :=
  (layout.deadKey? symbol).isSome

/-- Some dead key of the layout combines with the character. -/
def hasDeadKeys (layout : Layout) (symbol : Char) : Bool :=
  layout.deadKeys.any (·.combinesWith symbol)

/-- Some key produces the character at some level. -/
def produces (layout : Layout) (symbol : Char) : Bool :=
  layout.layers.any (·.produces symbol)

/-! ## Storing symbols -/

/-- The layout with one key of one layer written. -/
def insert (layout : Layout) (level : Level) (key : Key) (symbol : Char) : Layout :=
  { layout with
    layers := layout.layers.set level.index.val ((layout.layer level).insert key symbol)
      level.index.isLt }

/-- Notes the dead key that the character stands for, if the registry knows it. -/
def register (layout : Layout) (symbol : Char) : Layout :=
  if layout.isDeadKey symbol then layout
  else
    match layout.registry.deadKey? symbol with
    | some dk => { layout with deadKeys := layout.deadKeys ++ [dk] }
    | none => layout

theorem layer_insert (layout : Layout) (a b : Level) (key : Key) (symbol : Char) :
    (layout.insert a key symbol).layer b =
      if a = b then (layout.layer a).insert key symbol else layout.layer b := by
  simp only [insert, layer]
  by_cases h : a = b
  · simp [h]
  · have : a.index.val ≠ b.index.val := fun hi => h (Level.index_inj (Fin.ext hi))
    simp [h, this]

/-- Writing a key changes one cell and no other. -/
theorem symbol_insert (layout : Layout) (a b : Level) (k m : Key) (c : Char) :
    (layout.insert a k c).symbol m b =
      if a = b ∧ k = m then some c else layout.symbol m b := by
  simp only [symbol, layer_insert]
  by_cases h : a = b
  · simp [h, Layer.get_insert]
  · simp [h]

@[simp] theorem layer_register (layout : Layout) (symbol : Char) (level : Level) :
    (layout.register symbol).layer level = layout.layer level := by
  simp only [register]
  split
  · rfl
  · split <;> rfl

/-- Stores one symbol of a drawing, or refuses a combining mark that is no dead key. -/
def store (layout : Layout) (level : Level) (key : Key) (symbol : Char) :
    Except LayoutError Layout :=
  let noted := layout.register symbol
  if Text.isMark symbol && !noted.isDeadKey symbol then
    .error (.unregisteredDeadKey symbol key)
  else .ok (noted.insert level key symbol)

/-! ## Completing dead keys -/

/-- The levels that a layout-defined dead key leads from and to. -/
def deadKeyLevels : List (Level × Level) :=
  [(.base, .deadKey), (.shift, .deadKeyShift)]

/-- What the key types at one level and at another, if it types something at both. -/
def symbolPair? (layout : Layout) (start final : Level) (key : Key) : Option (Char × Char) :=
  match layout.symbol key start, layout.symbol key final with
  | some base, some alt => some (base, alt)
  | _, _ => none

/-- The table of a layout-defined dead key: the unshifted pairs, then the shifted ones, each in
the order of the keys. -/
def derivedPairs (layout : Layout) : List (Char × Char) :=
  deadKeyLevels.flatMap fun levels =>
    Key.all.filterMap fun key => layout.symbolPair? levels.1 levels.2 key

/-- The dead key with its final table: that of the layout, or those of its own pairs that start
from a character of the layout. -/
def completeDeadKey (layout : Layout) (dk : DeadKey) : DeadKey :=
  if dk.isLayoutDefined then dk.withPairs layout.derivedPairs
  else dk.keepBases layout.produces

/-- The layout with the final tables of its dead keys. -/
def complete (layout : Layout) : Layout :=
  { layout with deadKeys := layout.deadKeys.map layout.completeDeadKey }

end Layout

end KeyboardLayout
