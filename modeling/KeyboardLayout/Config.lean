import KeyboardLayout.Disk
import KeyboardLayout.Driver
import KeyboardLayout.Text.Blank
import KeyboardLayout.Toml.Document

/-!
# Configuration

The settings of a build, read from a TOML file. What the file does not say has its default, and what
it says beyond the settings is passed over.
-/

namespace KeyboardLayout

structure Config where
  /-- The directory for the drivers. -/
  directory : Path := "dist".toList
  /-- Also write a UTF-8 copy of each KLC file. -/
  klcCopy : Bool := true
  /-- Also write the web keymap. -/
  web : Bool := true
  /-- The board of the drawings in driver headers. -/
  previewGeometry : Text := "ISO".toList
  /-- XKB statements end with a comment. -/
  showDescription : Bool := true
  deriving DecidableEq, Repr

/-- What is wrong with a configuration. -/
inductive ConfigError
  | unreadable (path : Path) (e : ReadError)
  /-- The file is no TOML, or a setting has a value of another type. -/
  | malformed (path : Path)
  | emptyDirectory
  | emptyPreview
  deriving DecidableEq, Repr

namespace ConfigError

def message : ConfigError → Text
  | unreadable path _ => "Failed to read config file: ".toList ++ path
  | malformed path => "Failed to parse config file: ".toList ++ path
  | emptyDirectory => "output.dist_dir must not be empty".toList
  | emptyPreview => "preview.geometry must not be empty".toList

def report (e : ConfigError) : Text :=
  match e with
  | unreadable _ cause => e.message ++ ": ".toList ++ cause.message
  | malformed _ => e.message ++ ": TOML parse error".toList
  | emptyDirectory | emptyPreview => e.message

end ConfigError

namespace Config

open Toml

/-! ## Reading -/

mutual

/-- The value may be passed over: no number in it is out of range. -/
def isIgnorable : Value → Bool
  | .integer i => Text.fitsBits 128 i
  | .float overflows => !overflows
  | .array _ items => areIgnorable items
  | .table _ fields => areFieldsIgnorable fields
  | _ => true

/-- The items of an array may be passed over. -/
def areIgnorable : List Value → Bool
  | [] => true
  | item :: rest => isIgnorable item && areIgnorable rest

/-- The fields of a table may be passed over. -/
def areFieldsIgnorable : List (Text × Value) → Bool
  | [] => true
  | (_, value) :: rest => isIgnorable value && areFieldsIgnorable rest

end

/-- The fields of a group of settings: a table, or an array in the order of `names`. A date counts
as a table without any of the fields. -/
def group? (names : List Text) : Value → Option Fields
  | .table _ fields =>
    if fields.all fun field => names.contains field.1 || isIgnorable field.2 then some fields
    else none
  | .array _ items => some (names.zip items)
  | .date => some []
  | _ => none

/-- A setting: its value if it is given, and otherwise the default. -/
def setting {α : Type} (read : Value → Option α) (default : α) (name : Text) (fields : Fields) :
    Option α :=
  match Table.get? name fields with
  | none => some default
  | some value => read value

def text? : Value → Option Text
  | .text t => some t
  | _ => none

def bool? : Value → Option Bool
  | .bool b => some b
  | _ => none

/-- The configuration that the fields of a document make. -/
def ofFields? (fields : Fields) : Option Config := do
  let default : Config := {}
  let group (name : String) (names : List String) : Option Fields :=
    setting (group? (names.map String.toList)) [] name.toList fields
  let known := ["output".toList, "preview".toList, "xkb".toList]
  if !fields.all fun field => known.contains field.1 || isIgnorable field.2 then none
  let output ← group "output" ["dist_dir", "utf8_klc", "json"]
  let preview ← group "preview" ["geometry"]
  let xkb ← group "xkb" ["show_description"]
  return {
    directory := ← setting text? default.directory "dist_dir".toList output
    klcCopy := ← setting bool? default.klcCopy "utf8_klc".toList output
    web := ← setting bool? default.web "json".toList output
    previewGeometry := ← setting text? default.previewGeometry "geometry".toList preview
    showDescription := ← setting bool? default.showDescription "show_description".toList xkb }

/-! ## Checking -/

/-- Refuses an empty directory and a blank name of a board. -/
def validate (config : Config) : Except ConfigError Unit :=
  if config.directory.isEmpty then .error .emptyDirectory
  else if Text.isBlank config.previewGeometry then .error .emptyPreview
  else .ok ()

/-- The configuration of a text, which stands in the file of that path. -/
def ofText (path : Path) (t : Text) : Except ConfigError Config :=
  match (Document.ofText? t).bind ofFields? with
  | none => .error (.malformed path)
  | some config => config.validate.map fun _ => config

/-- Why the drawings in driver headers cannot be made: no board has that name. -/
structure UnknownPreview where
  name : Text
  available : List Text
  deriving DecidableEq, Repr

def UnknownPreview.message (e : UnknownPreview) : Text :=
  "Unknown preview geometry '".toList ++ e.name ++ "' (available: ".toList ++
    Text.join ", ".toList e.available ++ ")".toList

/-- Refuses a preview on a board that the registry does not know. -/
def validateGeometry (config : Config) (registry : Registry) : Except UnknownPreview Unit :=
  if (registry.geometry? config.previewGeometry).isSome then .ok ()
  else .error ⟨config.previewGeometry, registry.geometryNames⟩

/-- How the drivers are written. -/
def options (config : Config) : Driver.Options :=
  ⟨config.previewGeometry, config.showDescription⟩

/-! ## The user's configuration -/

/-- The name of a configuration file. -/
def fileName : Path :=
  "config.toml".toList

/-- Reads the configuration in a file. -/
def load {m : Type → Type} [Monad m] [Disk m] (path : Path) : m (Except ConfigError Config) := do
  match ← Disk.read path with
  | .error e => return .error (.unreadable path e)
  | .ok t => return ofText path t

/-- Reads the configuration in a directory; without a file there it is the default one. -/
def loadFrom {m : Type → Type} [Monad m] [Disk m] (directory : Path) :
    m (Except ConfigError Config) := do
  let path := Path.join directory fileName
  if ← Disk.isThere path then load path else return .ok {}

end Config

end KeyboardLayout
