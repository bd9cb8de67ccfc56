import KeyboardLayout.Drawing
import KeyboardLayout.Driver.Frame.Keylayout
import KeyboardLayout.Driver.Frame.Klc
import KeyboardLayout.Driver.Frame.Xkb
import KeyboardLayout.Keylayout
import KeyboardLayout.Klc
import KeyboardLayout.Text.Placeholder
import KeyboardLayout.Xkb

/-!
# Driver files

A driver file is a frame whose line markers are replaced by the views of the layout and whose
tokens are replaced by its metadata, one after the other.
-/

namespace KeyboardLayout

/-- What a driver file is made for. -/
inductive Driver
  | xkb | klc | keylayout
  deriving DecidableEq, Repr

namespace Driver

/-- How a driver file is written. -/
structure Options where
  /-- The board of the drawings in the header. -/
  previewGeometry : Text := "ISO".toList
  /-- XKB statements end with a comment. -/
  showDescription : Bool := true
  deriving DecidableEq, Repr

/-- All drivers, in the order in which they are built. -/
def all : List Driver :=
  [.xkb, .klc, .keylayout]

def extension : Driver → Text
  | xkb => "xkb".toList
  | klc => "klc".toList
  | keylayout => "keylayout".toList

def frame : Driver → Text
  | xkb => Frame.xkb
  | klc => Frame.klc
  | keylayout => Frame.keylayout

/-- The views of the header: the drawings of the layout on the preview board. -/
def previews (layout : Layout) (options : Options) :
    Except LayoutError (List (Text × List Text)) := do
  let base ← Drawing.ofLayout layout [.base, .deadKey] options.previewGeometry
  let altGr ← Drawing.ofLayout layout [.altGr] options.previewGeometry
  return [("GEOMETRY_qwerty".toList, base), ("GEOMETRY_altgr".toList, altGr)]

/-- The keymaps of a keylayout by the numbers that macOS gives them; the frame counts them in
order. -/
def numberedKeymaps (layout : Layout) : Except LayoutError (List (Text × List Text)) :=
  [("LAYOUT_0".toList, 0), ("LAYOUT_1".toList, 1), ("LAYOUT_2".toList, 2), ("LAYOUT_3".toList, 4),
    ("LAYOUT_4".toList, 5)].mapM fun numbered => do
      return (numbered.1, ← Keylayout.keymapLines layout numbered.2)

/-- The views of the body, with the names of their markers. -/
def body (driver : Driver) (layout : Layout) (options : Options) :
    Except LayoutError (List (Text × List Text)) :=
  match driver with
  | xkb => return [("LAYOUT".toList, Xkb.lines layout options.showDescription)]
  | klc => return [
      ("LAYOUT".toList, Klc.lines layout),
      ("DEAD_KEYS".toList, Klc.deadKeyLines layout),
      ("DEAD_KEY_INDEX".toList, Klc.nameLines layout)]
  | keylayout => do
    return (← numberedKeymaps layout) ++ [
      ("ACTIONS".toList, Keylayout.actionLines layout),
      ("TERMINATORS".toList, Keylayout.terminatorLines layout)]

/-- The tokens that the driver itself decides. -/
def ownTokens : Driver → List (Text × Text)
  | klc => [("encoding".toList, "UTF-16LE".toList)]
  | _ => []

/-- The tokens of the metadata. The variant is called like the layout unless it has a name. -/
def metadataTokens (metadata : Metadata) : List (Text × Text) :=
  [("name".toList, metadata.name),
    ("description".toList, metadata.description),
    ("locale".toList, metadata.locale),
    ("variant".toList, if metadata.variant.isEmpty then metadata.name else metadata.variant),
    ("author".toList, metadata.author),
    ("version".toList, metadata.version)]

/-- A text with the markers of the views replaced, one after the other. -/
def insertViews (views : List (Text × List Text)) (text : Text) : Text :=
  views.foldl (fun text view => Text.Placeholder.substituteLines view.1 view.2 text) text

/-- A text with the tokens replaced, one after the other. -/
def insertTokens (tokens : List (Text × Text)) (text : Text) : Text :=
  tokens.foldl (fun text token => Text.Placeholder.substituteToken token.1 token.2 text) text

def render (driver : Driver) (layout : Layout) (options : Options) :
    Except LayoutError Text := do
  let previews ← previews layout options
  let body ← driver.body layout options
  let filled := insertViews (previews ++ body) driver.frame
  return insertTokens (driver.ownTokens ++ metadataTokens layout.metadata) filled

end Driver

end KeyboardLayout
