import KeyboardLayout.Command.Failure
import KeyboardLayout.Layout.Source

/-!
# Layout files

The layout of a source file. It is called like the file unless its source names it.
-/

namespace KeyboardLayout.Command

/-- The layout, called like the file unless it has a name. -/
def nameAfter (path : Path) (layout : Layout) : Layout :=
  if layout.metadata.name.isEmpty then
    { layout with metadata := { layout.metadata with name := Path.stem path } }
  else layout

/-- The layout of what was read from a file. -/
def layoutOf (registry : Registry) (path : Path) (content : Except ReadError Text) :
    Except Failure Layout :=
  match content with
  | .error e => .error (.layoutUnreadable path e)
  | .ok t =>
    match Layout.ofText registry t with
    | .error e => .error (.layoutInvalid path e)
    | .ok layout => .ok (nameAfter path layout)

def loadLayout {m : Type → Type} [Monad m] [Disk m] (registry : Registry) (path : Path) :
    m (Except Failure Layout) := do
  if ← Disk.isFile path then return layoutOf registry path (← Disk.read path)
  else return .error (.layoutNotFound path)

end KeyboardLayout.Command
