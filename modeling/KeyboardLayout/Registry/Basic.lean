import KeyboardLayout.DeadKey
import KeyboardLayout.Geometry
import KeyboardLayout.KeyCodes
import KeyboardLayout.Table

/-!
# Registries

What a layout is read and exported with: the boards it can be drawn on, the dead keys it can use
and the names that each target has for keys and symbols.
-/

namespace KeyboardLayout

/-- The lookup tables. -/
structure Registry where
  /-- The boards, in the order of their declaration. -/
  geometries : List Geometry
  /-- The dead keys, in the order of their declaration. -/
  deadKeys : List DeadKey
  /-- The codes of every key. -/
  keyCodes : Key → KeyCodes
  /-- The X11 keysym names of characters. -/
  xkbNames : Table Char Text
  /-- The characters that a Windows layout table may show as themselves. -/
  klcLiterals : List Char

namespace Registry

/-- The first board of that name, whatever the case of its ASCII letters. -/
def geometry? (registry : Registry) (name : Text) : Option Geometry :=
  registry.geometries.find? fun geometry => geometry.name.eqIgnoringCase name

def geometryNames (registry : Registry) : List Text :=
  registry.geometries.map (·.name)

def deadKey? (registry : Registry) (marker : Char) : Option DeadKey :=
  registry.deadKeys.find? (·.marker == marker)

def xkbName? (registry : Registry) (symbol : Char) : Option Text :=
  registry.xkbNames.get? symbol

/-- The character may stand as itself in a Windows layout table. -/
def isKlcLiteral (registry : Registry) (symbol : Char) : Bool :=
  registry.klcLiterals.contains symbol

theorem marker_of_deadKey? {registry : Registry} {marker : Char} {dk : DeadKey}
    (h : registry.deadKey? marker = some dk) : dk.marker = marker := by
  simpa using List.find?_some h

/-- A board takes the place of the one of the same name, or comes after all others. -/
def putGeometry (geometry : Geometry) : List Geometry → List Geometry
  | [] => [geometry]
  | other :: rest =>
    if other.name = geometry.name then geometry :: rest else other :: putGeometry geometry rest

/-- The boards that a catalog leaves when it is added to others. -/
def addGeometries (known catalog : List Geometry) : List Geometry :=
  catalog.foldl (fun known geometry => putGeometry geometry known) known

/-- The registry with the boards of a catalog added or replaced. -/
def withGeometries (registry : Registry) (catalog : List Geometry) : Registry :=
  { registry with geometries := addGeometries registry.geometries catalog }

end Registry

end KeyboardLayout
