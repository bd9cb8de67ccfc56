import KeyboardLayout.Disk
import KeyboardLayout.Table
import KeyboardLayout.Text.Utf8

/-!
# Worlds

A world holds files and directories, a working directory and what was printed. It answers the
operations of a disk as a file system without links does: a path is walked part by part, and each
part but the last one must be a directory.
-/

namespace KeyboardLayout

/-- The place of a file or directory: the names that lead to it from the root. -/
abbrev Location := List Text

/-- What lies at a place. -/
inductive Entry
  | file (data : List UInt8)
  | directory
  deriving DecidableEq, Repr

/-- Files, directories and printed lines. -/
structure World where
  /-- What lies below the root. -/
  entries : Table Location Entry := []
  /-- Where paths start that are not absolute. -/
  workingDirectory : Location := []
  printed : Text := []
  deriving DecidableEq, Repr

namespace World

def entry? (world : World) (location : Location) : Option Entry :=
  if location.isEmpty then some .directory else Table.get? location world.entries

/-- The longest name of a file, in bytes. -/
def maxName : Nat := 255

/-- The longest path, in bytes. -/
def maxPath : Nat := 4095

/-- The place that parts of a path lead to. Nothing needs to lie there. -/
def walk (world : World) (location : Location) : List Text → Except SystemError Location
  | [] => .ok location
  | part :: rest =>
    match world.entry? location with
    | none => .error .notFound
    | some (.file _) => .error .notDirectory
    | some .directory =>
      if Path.isIdle part then world.walk location rest
      else if part = ['.', '.'] then world.walk location.dropLast rest
      else if maxName < Text.utf8Length part then .error .nameTooLong
      else world.walk (location ++ [part]) rest

/-- The place that a path leads to. -/
def locate (world : World) (path : Path) : Except SystemError Location :=
  if path.contains '\x00' then .error .nullInName
  else if path.isEmpty then .error .notFound
  else if maxPath < Text.utf8Length path then .error .nameTooLong
  else world.walk (if Path.isAbsolute path then [] else world.workingDirectory) (Path.split path)

def find? (world : World) (path : Path) : Option Entry :=
  match world.locate path with
  | .ok location => world.entry? location
  | .error _ => none

def isFile (world : World) (path : Path) : Bool :=
  match world.find? path with
  | some (.file _) => true
  | _ => false

def isDirectory (world : World) (path : Path) : Bool :=
  world.find? path == some .directory

def read (world : World) (path : Path) : Except ReadError Text :=
  match world.locate path with
  | .error e => .error (.system e)
  | .ok location =>
    match world.entry? location with
    | none => .error (.system .notFound)
    | some .directory => .error (.system .isDirectory)
    | some (.file data) =>
      match Text.Utf8.decode? data with
      | some t => .ok t
      | none => .error .encoding

/-- The world with an entry at a place. -/
def put (world : World) (location : Location) (entry : Entry) : World :=
  { world with entries := Table.put location entry world.entries }

def write (world : World) (path : Path) (data : List UInt8) : Except SystemError World := do
  let location ← world.locate path
  if world.entry? location = some .directory then throw .isDirectory
  return world.put location (.file data)

/-- Makes a directory in one that is there. -/
def makeDirectory (world : World) (path : Path) : Except SystemError World := do
  let location ← world.locate (Path.trimSlashes path)
  if (world.entry? location).isSome then throw .exists
  return world.put location .directory

/-- Goes on with the world that an operation leaves; a refused operation leaves it as it was. -/
def attempt (operation : World → Except SystemError World) :
    StateM World (Except SystemError Unit) :=
  modifyGet fun world =>
    match operation world with
    | .ok world => (.ok (), world)
    | .error e => (.error e, world)

def print (world : World) (line : Text) : World :=
  { world with printed := world.printed ++ line ++ ['\n'] }

end World

instance : Disk (StateM World) where
  isFile path := return (← get).isFile path
  isDirectory path := return (← get).isDirectory path
  isThere path := return ((← get).find? path).isSome
  read path := return (← get).read path
  makeDirectory path := World.attempt (·.makeDirectory path)
  write path data := World.attempt (·.write path data)
  print line := modify (·.print line)

end KeyboardLayout
