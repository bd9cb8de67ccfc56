import KeyboardLayout.Drawing
import KeyboardLayout.Text.Blank
import KeyboardLayout.Text.Lines
import KeyboardLayout.Yaml.Decode

/-!
# Layouts from source texts

A source names a board and draws two blocks on it: one for the base and the dead-key pair, one for
the AltGr pair. Reading them stops at the first fault; after the last block the dead keys get their
tables.
-/

namespace KeyboardLayout

open Yaml

namespace Layout

structure Source where
  metadata : Metadata := {}
  /-- The name of the board. -/
  geometry : Text := "ISO".toList
  /-- The drawing of the base and the dead-key pair. -/
  base : Text := []
  /-- The drawing of the AltGr pair. -/
  altGr : Text := []
  deriving DecidableEq, Repr

namespace Source

/-! ## From a YAML text -/

/-- The fields that hold any scalar. -/
def drawingFields : List Text :=
  ["geometry".toList, "base".toList, "altgr".toList]

/-- The fields that hold a text. -/
def metadataFields : List Text :=
  ["name".toList, "description".toList, "locale".toList, "variant".toList, "author".toList,
    "version".toList]

/-- How deep the value of a field may be nested. -/
def depth : Nat := 127

/-- One more field of a source. What is no field of a source may have any value. -/
def addField (fields : Table Text Text) (pair : Value × Value) :
    Decoder (Table Text Text) := do
  let name ← Decoder.text pair.1
  let isKnown := drawingFields.contains name || metadataFields.contains name
  if isKnown && (Table.get? name fields).isSome then failure
  if drawingFields.contains name then
    let t ← Decoder.text pair.2
    return fields ++ [(name, t)]
  else
    match ← Decoder.any depth pair.2, isKnown with
    | _, false => return fields
    | some t, true => return fields ++ [(name, t)]
    | none, true => failure

/-- The source that its fields make. -/
def ofFields (fields : Table Text Text) : Source :=
  let field (name : String) : Text := (Table.get? name.toList fields).getD []
  { metadata := {
      name := field "name"
      description := field "description"
      locale := field "locale"
      variant := field "variant"
      author := field "author"
      version := field "version" }
    geometry := (Table.get? "geometry".toList fields).getD "ISO".toList
    base := field "base"
    altGr := field "altgr" }

def ofText? (t : Text) : Option Source :=
  Decoder.ofText? (fun value => do return ofFields (← (← Decoder.pairs value).foldlM addField [])) t

/-! ## As a YAML text -/

/-- The drawing of some pairs as an indented block. -/
def drawnBlock (layout : Layout) (pairs : List Pair) : Except LayoutError Text :=
  (Drawing.ofLayout layout pairs layout.geometry.name).map (Text.ofLines · "  ".toList)

/-- A source text that draws the layout on its own board. -/
def textOf (layout : Layout) : Except LayoutError Text := do
  let base ← drawnBlock layout [.base, .deadKey]
  let altGr ← drawnBlock layout [.altGr]
  return "geometry: ".toList ++ layout.geometry.name ++ "\nbase: |\n".toList ++ base ++
    "\naltgr: |\n".toList ++ altGr ++ "\n".toList

/-! ## Blocks -/

/-- The blocks of a source with the pairs that each of them draws. -/
def blocks (source : Source) : List (Text × List Pair) :=
  [(source.base, [.base, .deadKey]), (source.altGr, [.altGr])]

/-- The lines of a block, with every combining mark in the place of the blank before it. -/
def drawnLines (block : Text) : List Text :=
  Text.lines (Text.mergeMarks block)

/-- Reads the pairs of a block. A blank block says nothing. -/
def readBlock (layout : Layout) (block : Text × List Pair) : Drawing.Reading :=
  if Text.isBlank block.1 then ⟨layout, none⟩
  else
    Drawing.readAll
      (fun layout pair => Drawing.read layout (drawnLines block.1) layout.geometry.rows pair)
      layout block.2

end Source

/-- Reads the blocks of a source into a layout. -/
def readSource (layout : Layout) (source : Source) : Drawing.Reading :=
  Drawing.readAll Source.readBlock layout source.blocks

/-- The layout that a source describes. -/
def ofSource (registry : Registry) (source : Source) : Except LayoutError Layout := do
  let empty ← Layout.new source.metadata source.geometry registry
  let reading := empty.readSource source
  match reading.fault? with
  | some fault => throw fault
  | none => return reading.layout.complete

/-- The layout that a source text describes. -/
def ofText (registry : Registry) (t : Text) : Except LayoutError Layout :=
  match Source.ofText? t with
  | some source => ofSource registry source
  | none => .error .malformedSource

end Layout

end KeyboardLayout
