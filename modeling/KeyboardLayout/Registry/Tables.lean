import KeyboardLayout.Registry.Basic
import KeyboardLayout.Text.Quoted

/-!
# Registries from tables

A registry is declared by four tables. `Registry.ofTables?` checks them in order (geometries, dead
keys entry by entry, key codes in the order of the keys, symbols) and answers the first fault.
`Registry.tables` is the way back: the tables that declare a registry.
-/

namespace KeyboardLayout

/-- The texts that declare a registry. -/
inductive TableFile
  | geometry | deadKeys | keyCodes | symbols | catalog
  deriving DecidableEq, Repr

def TableFile.name : TableFile → Text
  | geometry => "geometry.yaml".toList
  | deadKeys => "dead_keys.yaml".toList
  | keyCodes => "key_codes.yaml".toList
  | symbols => "symbols.yaml".toList
  | catalog => "geometry catalog".toList

/-- A field of a dead key that must be one character. -/
inductive CharField
  | char | klc | altSpace | altSelf
  deriving DecidableEq, Repr

def CharField.name : CharField → Text
  | char => "char".toList
  | klc => "klc".toList
  | altSpace => "alt_space".toList
  | altSelf => "alt_self".toList

/-- What is wrong with the tables of a registry. -/
inductive RegistryError
  /-- The text is not a table of the expected shape. -/
  | malformed (file : TableFile)
  /-- A field of a dead key is not one character. -/
  | notAChar (name : Text) (field : CharField) (value : Text)
  /-- The columns of a dead key have different lengths. -/
  | misaligned (name : Text) (base alt : Nat)
  /-- Two dead keys have one marker. -/
  | duplicateMarker (marker : Char)
  /-- A key has no codes. -/
  | missingCodes (key : Key)
  deriving DecidableEq, Repr

def RegistryError.message : RegistryError → Text
  | malformed file => "Failed to parse ".toList ++ file.name
  | notAChar name field value =>
    "Dead key '".toList ++ name ++ "': ".toList ++ field.name ++
      " must be a single character, got ".toList ++ Text.Quoted.encode value
  | misaligned name base alt =>
    "Dead key '".toList ++ name ++ "': base and alt tables differ in length (".toList ++
      Text.decimal base ++ " vs ".toList ++ Text.decimal alt ++ ")".toList
  | duplicateMarker marker => "Duplicate dead key marker U+".toList ++ Text.hexUpper marker
  | missingCodes key =>
    "No ".toList ++ TableFile.keyCodes.name ++ " key code for key ".toList ++ key.name

/-- A dead key as its table declares it: every field is a text. -/
structure DeadKeyEntry where
  char : Text
  name : Text
  klc : Text
  xkb : Text
  altSpace : Text
  altSelf : Text
  compose : Compose
  base : Text
  alt : Text
  deriving DecidableEq, Repr

namespace DeadKeyEntry

/-- The one character of a field. -/
def charOf (entry : DeadKeyEntry) (field : CharField) : Except RegistryError Char :=
  let value := match field with
    | .char => entry.char
    | .klc => entry.klc
    | .altSpace => entry.altSpace
    | .altSelf => entry.altSelf
  match value with
  | [c] => .ok c
  | value => .error (.notAChar entry.name field value)

/-- The dead key that an entry declares. -/
def deadKey (entry : DeadKeyEntry) : Except RegistryError DeadKey := do
  if entry.base.length ≠ entry.alt.length then
    throw (.misaligned entry.name entry.base.length entry.alt.length)
  let marker ← entry.charOf .char
  let glyph ← entry.charOf .klc
  let altSpace ← entry.charOf .altSpace
  let altSelf ← entry.charOf .altSelf
  return ⟨marker, entry.name, glyph, entry.xkb, altSpace, altSelf, entry.compose, entry.base,
    entry.alt⟩

/-- The entry that declares a dead key. -/
def ofDeadKey (dk : DeadKey) : DeadKeyEntry :=
  ⟨[dk.marker], dk.name, [dk.glyph], dk.xkbSymbol, [dk.altSpace], [dk.altSelf], dk.compose,
    dk.base, dk.alt⟩

/-- The dead keys of a table, after those already `known`. -/
def loadAfter (known : List DeadKey) : List DeadKeyEntry → Except RegistryError (List DeadKey)
  | [] => .ok known
  | entry :: rest => do
    let dk ← entry.deadKey
    if known.any (·.marker == dk.marker) then
      throw (.duplicateMarker dk.marker)
    loadAfter (known ++ [dk]) rest

def load (entries : List DeadKeyEntry) : Except RegistryError (List DeadKey) :=
  loadAfter [] entries

end DeadKeyEntry

/-- The names of symbols. -/
structure SymbolTables where
  xkb : List (Char × Text)
  klc : Text
  deriving DecidableEq, Repr

/-- The tables of a registry. A table whose text is not of its shape is missing. -/
structure Tables where
  geometries : Option (List Geometry)
  deadKeys : Option (List DeadKeyEntry)
  keyCodes : Option (List (Key × KeyCodes))
  symbols : Option SymbolTables

namespace Registry

/-- A table that is there. -/
def require {α : Type} (file : TableFile) : Option α → Except RegistryError α
  | some table => .ok table
  | none => .error (.malformed file)

/-- The codes of every key, or the first key of `keys` that has none. -/
def codesOf (table : Table Key KeyCodes) : Except RegistryError (Key → KeyCodes) :=
  if h : ∀ key ∈ Key.all, (table.get? key).isSome then
    .ok fun key => (table.get? key).get (h key (Key.mem_all key))
  else
    match Key.all.find? fun key => (table.get? key).isNone with
    | some key => .error (.missingCodes key)
    | none => .error (.malformed .keyCodes)

/-- The registry that the tables declare. -/
def ofTables? (tables : Tables) : Except RegistryError Registry := do
  let geometries ← require .geometry tables.geometries
  let entries ← require .deadKeys tables.deadKeys
  let deadKeys ← DeadKeyEntry.load entries
  let codes ← require .keyCodes tables.keyCodes
  let keyCodes ← codesOf (Table.ofRows codes)
  let symbols ← require .symbols tables.symbols
  return {
    geometries := addGeometries [] geometries
    deadKeys
    keyCodes
    xkbNames := Table.ofRows symbols.xkb
    klcLiterals := symbols.klc
  }

/-- The tables that declare a registry. -/
def tables (registry : Registry) : Tables where
  geometries := some registry.geometries
  deadKeys := some (registry.deadKeys.map DeadKeyEntry.ofDeadKey)
  keyCodes := some (Key.all.map fun key => (key, registry.keyCodes key))
  symbols := some ⟨registry.xkbNames, registry.klcLiterals⟩

end Registry

end KeyboardLayout
