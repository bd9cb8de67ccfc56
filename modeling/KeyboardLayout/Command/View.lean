import KeyboardLayout.Command.LayoutFile
import KeyboardLayout.Registry.Builtin
import KeyboardLayout.WebKeymap

/-!
# Viewing a layout

Prints one view of a layout: what an exporter makes of it, or its drawing.
-/

namespace KeyboardLayout

/-- What can be printed of a layout. -/
inductive View
  | xkb | klc | klcDeadKeys | klcNames | keymap | actions | terminators | drawing | web
  deriving DecidableEq, Repr

namespace View

def all : List View :=
  [.xkb, .klc, .klcDeadKeys, .klcNames, .keymap, .actions, .terminators, .drawing, .web]

def name : View → Text
  | xkb => "xkb".toList
  | klc => "klc".toList
  | klcDeadKeys => "klc-deadkeys".toList
  | klcNames => "klc-dk-index".toList
  | keymap => "osx-keymap".toList
  | actions => "osx-actions".toList
  | terminators => "osx-terminators".toList
  | drawing => "geometry".toList
  | web => "json".toList

def ofName? (name : Text) : Option View :=
  all.find? (·.name == name)

end View

namespace Command

/-- What to print of which layout. -/
structure ViewRequest where
  layout : Path
  view : View
  /-- The number of the macOS keymap. -/
  level : Nat := 0
  /-- The lower levels of the pairs that are drawn. -/
  levels : List Nat := [0, 2]
  /-- The board to draw on, or that of the layout. -/
  geometry : Option Text := none
  deriving DecidableEq, Repr

namespace ViewRequest

/-- The pair whose lower level has that number. -/
def pairOf (index : Nat) : Except Failure Pair :=
  match (Level.ofIndex? index).filter fun level => level.pair.lower == level with
  | some level => .ok level.pair
  | none => .error (.invalidLevel index)

/-- A layout error as a failure of the command. -/
def orFailure {α : Type} : Except LayoutError α → Except Failure α :=
  Except.mapError Failure.view

def text (request : ViewRequest) (layout : Layout) : Except Failure Text :=
  match request.view with
  | .xkb => .ok (Text.unlines (Xkb.lines layout true))
  | .klc => .ok (Text.unlines (Klc.lines layout))
  | .klcDeadKeys => .ok (Text.unlines (Klc.deadKeyLines layout))
  | .klcNames => .ok (Text.unlines (Klc.nameLines layout))
  | .keymap =>
    (orFailure (Keylayout.keymapLines layout request.level)).map Text.unlines
  | .actions => .ok (Text.unlines (Keylayout.actionLines layout))
  | .terminators => .ok (Text.unlines (Keylayout.terminatorLines layout))
  | .drawing => do
    let pairs ← request.levels.mapM pairOf
    let geometry := request.geometry.getD layout.geometry.name
    (orFailure (Drawing.ofLayout layout pairs geometry)).map Text.unlines
  | .web => .ok (WebKeymap.ofLayout layout).text

def run {m : Type → Type} [Monad m] [Disk m] (request : ViewRequest) :
    m (Except Failure Unit) := do
  match (← loadLayout Registry.builtin request.layout) >>= request.text with
  | .error failure => return .error failure
  | .ok t =>
    Disk.print t
    return .ok ()

end ViewRequest

end Command

end KeyboardLayout
