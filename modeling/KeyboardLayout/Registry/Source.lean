import KeyboardLayout.Registry.Builtin
import KeyboardLayout.Registry.Tables
import KeyboardLayout.Yaml.Decode

/-!
# Registries from texts

The tables of a registry are YAML documents. A table that is not given is the built-in one, and
catalogs of boards may be added.
-/

namespace KeyboardLayout

open Yaml

namespace Registry

structure Source where
  geometries : Option Text := none
  deadKeys : Option Text := none
  keyCodes : Option Text := none
  symbols : Option Text := none
  /-- Catalogs of boards that are added one after the other. -/
  catalogs : List Text := []
  deriving DecidableEq, Repr

namespace Source

/-- A key by its exact name. -/
def key (value : Value) : Decoder Key :=
  Decoder.named (fun name => Key.all.find? (·.name == name)) value

def row (value : Value) : Decoder Row := do
  let fields ← Decoder.record ["offset".toList, "keys".toList] value
  let offset ← Decoder.required fields "offset".toList (Decoder.natural (Nat.pow 2 64))
  let keys ← Decoder.required fields "keys".toList (Decoder.list key)
  return ⟨offset, keys⟩

/-- A board, whose name is given apart. -/
def geometry (value : Value) : Decoder (Text → Geometry) := do
  let fields ← Decoder.record ["template".toList, "rows".toList] value
  let template ← Decoder.required fields "template".toList (Decoder.list Decoder.text)
  let rows ← Decoder.required fields "rows".toList (Decoder.list row)
  return fun name => ⟨name, template, rows⟩

def catalog (value : Value) : Decoder (List Geometry) := do
  let rows ← Decoder.rows Decoder.text geometry value
  return rows.map fun row => row.2 row.1

/-- How a dead key gets its table. -/
def compose (value : Value) : Decoder Compose :=
  Decoder.named
    (fun name =>
      if name = "table".toList then some .table
      else if name = "layout".toList then some .layout
      else none)
    value

/-- The fields of a dead key. -/
def deadKeyFields : List Text :=
  ["char".toList, "name".toList, "klc".toList, "xkb".toList, "alt_space".toList,
    "alt_self".toList, "compose".toList, "base".toList, "alt".toList]

def deadKey (value : Value) : Decoder DeadKeyEntry := do
  let fields ← Decoder.record deadKeyFields value
  let char ← Decoder.required fields "char".toList Decoder.text
  let name ← Decoder.required fields "name".toList Decoder.text
  let klc ← Decoder.required fields "klc".toList Decoder.text
  let xkb ← Decoder.required fields "xkb".toList Decoder.text
  let altSpace ← Decoder.required fields "alt_space".toList Decoder.text
  let altSelf ← Decoder.required fields "alt_self".toList Decoder.text
  let compose ← Decoder.optional fields "compose".toList .table compose
  let base ← Decoder.optional fields "base".toList [] Decoder.text
  let alt ← Decoder.optional fields "alt".toList [] Decoder.text
  return { char, name, klc, xkb, altSpace, altSelf, compose, base, alt }

def codes (value : Value) : Decoder KeyCodes := do
  let fields ← Decoder.record
    ["klc_scan".toList, "klc_vk".toList, "osx".toList, "web".toList] value
  let klcScan ← Decoder.required fields "klc_scan".toList Decoder.text
  let klcVirtual ← Decoder.required fields "klc_vk".toList Decoder.text
  let mac ← Decoder.required fields "osx".toList (Decoder.natural (Nat.pow 2 16))
  let web ← Decoder.required fields "web".toList Decoder.text
  return { klcScan, klcVirtual, mac, web }

/-- The names of symbols. -/
def symbolTables (value : Value) : Decoder SymbolTables := do
  let fields ← Decoder.record ["xkb".toList, "klc".toList] value
  let xkb ← Decoder.required fields "xkb".toList (Decoder.rows Decoder.char Decoder.text)
  let klc ← Decoder.required fields "klc".toList Decoder.text
  return { xkb, klc }

/-- A table from its text, or the built-in one. -/
def table {α : Type} (decode : Value → Decoder α) (builtin : Option α) :
    Option Text → Option α
  | none => builtin
  | some t => Decoder.ofText? decode t

/-- The tables that the texts hold. -/
def tables (source : Source) : Tables where
  geometries := table catalog builtin.tables.geometries source.geometries
  deadKeys := table (Decoder.list deadKey) builtin.tables.deadKeys source.deadKeys
  keyCodes := table (Decoder.rows key codes) builtin.tables.keyCodes source.keyCodes
  symbols := table symbolTables builtin.tables.symbols source.symbols

end Source

/-- The registry with the boards of a catalog text. -/
def withCatalog (registry : Registry) (t : Text) : Except RegistryError Registry := do
  let catalog ← require .catalog (Decoder.ofText? Source.catalog t)
  return registry.withGeometries catalog

/-- The registry that texts declare. -/
def ofSource (source : Source) : Except RegistryError Registry := do
  let registry ← ofTables? source.tables
  source.catalogs.foldlM withCatalog registry

end Registry

end KeyboardLayout
