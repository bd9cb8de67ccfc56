import KeyboardLayout.Command.LayoutFile
import KeyboardLayout.Registry.Builtin
import KeyboardLayout.Text.Utf16
import KeyboardLayout.Text.Utf8
import KeyboardLayout.WebKeymap

/-!
# Building drivers

Compiles layout files one after the other into one directory. Each driver of a layout is rendered
and written before the next one is rendered; the paths are printed after the last file of the
layout.
-/

namespace KeyboardLayout.Command

/-- A file that a build writes. -/
structure Output where
  path : Path
  data : List UInt8
  deriving DecidableEq, Repr

namespace Output

/-- The path of a file of the layout: its name with something behind it. -/
def pathOf (directory : Path) (layout : Layout) (ending : String) : Path :=
  Path.join directory (layout.metadata.name ++ ending.toList)

/-- The files of one driver. A KLC file is UTF-16 with Windows line ends and may have a UTF-8 copy
beside it. -/
def ofDriver (config : Config) (directory : Path) (layout : Layout) (driver : Driver) :
    Except Failure (List Output) := do
  let content ← (driver.render layout config.options).mapError (Failure.render driver)
  match driver with
  | .xkb => return [⟨pathOf directory layout ".xkb", Text.Utf8.encode content⟩]
  | .keylayout => return [⟨pathOf directory layout ".keylayout", Text.Utf8.encode content⟩]
  | .klc =>
    let copy := ⟨pathOf directory layout "_utf8.klc", Text.Utf8.encode content⟩
    return ⟨pathOf directory layout ".klc", Text.Utf16.encodeDos content⟩ ::
      (if config.klcCopy then [copy] else [])

def ofWeb (config : Config) (directory : Path) (layout : Layout) : List Output :=
  if config.web then
    [⟨pathOf directory layout ".json", Text.Utf8.encode (WebKeymap.ofLayout layout).text⟩]
  else []

end Output

structure BuildRequest where
  layouts : List Path
  /-- The directory for the drivers, or that of the configuration. -/
  directory : Option Path := none
  /-- The configuration file, or the user's. -/
  config : Option Path := none
  deriving DecidableEq, Repr

namespace BuildRequest

variable {m : Type → Type} [Monad m] [Disk m]

/-- Reads the configuration. The user's one is in the directory `home`, if there is one. -/
def loadConfig (request : BuildRequest) (home : Option Path) : m (Except Failure Config) := do
  match request.config, home with
  | some path, _ =>
    if ← Disk.isFile path then return (← Config.load path).mapError Failure.config
    else return .error (.configNotFound path)
  | none, some home => return (← Config.loadFrom home).mapError Failure.config
  | none, none => return .error .noConfigDirectory

/-- Writes files one after the other, up to the first one that cannot be written. -/
def writeAll : List Output → m (Except Failure Unit)
  | [] => return .ok ()
  | output :: rest => do
    match ← Disk.write output.path output.data with
    | .ok _ => writeAll rest
    | .error e => return .error (.write output.path e)

/-- Renders and writes drivers one after the other, up to the first failure. -/
def writeDrivers (config : Config) (directory : Path) (layout : Layout) :
    List Driver → m (Except Failure (List Output))
  | [] => return .ok []
  | driver :: rest => do
    match Output.ofDriver config directory layout driver with
    | .error failure => return .error failure
    | .ok outputs =>
      match ← writeAll outputs with
      | .error failure => return .error failure
      | .ok _ => return (← writeDrivers config directory layout rest).map (outputs ++ ·)

/-- Writes all drivers of a layout, and then its web keymap. -/
def writeLayout (config : Config) (directory : Path) (layout : Layout) :
    m (Except Failure (List Output)) := do
  match ← writeDrivers config directory layout Driver.all with
  | .error failure => return .error failure
  | .ok outputs =>
    let web := Output.ofWeb config directory layout
    match ← writeAll web with
    | .error failure => return .error failure
    | .ok _ => return .ok (outputs ++ web)

def buildOne (config : Config) (directory path : Path) : m (Except Failure Unit) := do
  match ← loadLayout Registry.builtin path with
  | .error failure => return .error failure
  | .ok layout =>
    match ← writeLayout config directory layout with
    | .error failure => return .error failure
    | .ok outputs =>
      outputs.forM fun output => Disk.print ("... ".toList ++ output.path)
      return .ok ()

/-- Builds layouts one after the other, up to the first failure. -/
def buildAll (config : Config) (directory : Path) : List Path → m (Except Failure Unit)
  | [] => return .ok ()
  | path :: rest => do
    match ← buildOne config directory path with
    | .ok _ => buildAll config directory rest
    | .error failure => return .error failure

def run (request : BuildRequest) (home : Option Path) : m (Except Failure Unit) := do
  match ← request.loadConfig home with
  | .error failure => return .error failure
  | .ok config =>
    match config.validateGeometry Registry.builtin with
    | .error e => return .error (.preview e)
    | .ok _ =>
      let directory := request.directory.getD config.directory
      match ← Disk.createDirectories directory with
      | .error e => return .error (.outputDirectory directory e)
      | .ok _ => buildAll config directory request.layouts

end BuildRequest

end KeyboardLayout.Command
