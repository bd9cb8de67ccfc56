import KeyboardLayout.Layout.Basic
import KeyboardLayout.Sectioned
import KeyboardLayout.Text.Blank
import KeyboardLayout.Text.Casing

/-!
# KLC sources

The three tables of a Windows layout source: the layout itself, one block for each dead key, and
the names of the dead keys. A dead key goes by the code of what it types before a space; an `@`
behind that code says that the dead key itself is meant, not the character.
-/

namespace KeyboardLayout.Klc

/-- What stands for a level at which the key produces nothing. -/
def nothing : Text :=
  "-1".toList

/-- The levels of the layout table, in the order of its columns. -/
def levels : List Level :=
  [.base, .shift, .altGr, .altGrShift]

def deadKeyCode (dk : DeadKey) : Text :=
  Text.hex dk.altSpace

/-- The symbol of a character in the layout table. -/
def symbol (layout : Layout) (c : Char) : Text :=
  match layout.deadKey? c with
  | some dk => deadKeyCode dk ++ ['@']
  | none => if layout.registry.isKlcLiteral c then [c] else Text.hex c

/-- What a comment shows for a character: a dead key shows what it types before a space. -/
def shown (layout : Layout) (c : Char) : Char :=
  ((layout.deadKey? c).map (·.altSpace)).getD c

/-! ## The layout table -/

def symbolAt (layout : Layout) (key : Key) (level : Level) : Text :=
  ((layout.symbol key level).map (symbol layout)).getD nothing

/-- What the comment shows for a key at a level. -/
def shownAt (layout : Layout) (key : Key) (level : Level) : Char :=
  ((layout.symbol key level).map (shown layout)).getD ' '

/-- The comment of a key: what it types at each level. -/
def comment (layout : Layout) (key : Key) : Text :=
  Text.trim ("//".toList ++ levels.flatMap fun level => [' ', shownAt layout key level])

/-- Caps Lock changes the key: what it types is no dead key and differs from its uppercase. -/
def isCapsAffected (layout : Layout) (key : Key) : Bool :=
  match layout.symbol key .base with
  | some c => !layout.isDeadKey c && Text.upperChar c != [c]
  | none => false

structure TableRow where
  scan : Text
  virtualKey : Text
  caps : Bool
  base : Text
  shift : Text
  altGr : Text
  altGrShift : Text
  comment : Text
  deriving DecidableEq, Repr

def row (layout : Layout) (key : Key) : TableRow where
  scan := (layout.registry.keyCodes key).klcScan
  virtualKey := (layout.registry.keyCodes key).klcVirtual
  caps := isCapsAffected layout key
  base := symbolAt layout key .base
  shift := symbolAt layout key .shift
  altGr := symbolAt layout key .altGr
  altGrShift := symbolAt layout key .altGrShift
  comment := comment layout key

/-- The columns of a row; no key types anything with Ctrl alone. -/
def TableRow.fields (r : TableRow) : List Text :=
  [r.scan, r.virtualKey, if r.caps then ['1'] else ['0'], r.base, r.shift, nothing, r.altGr,
    r.altGrShift, r.comment]

def TableRow.text (r : TableRow) : Text :=
  Text.join ['\t'] r.fields

def lines (layout : Layout) : List Text :=
  Sectioned.listing Sectioned.slashTitle fun key => [(row layout key).text]

/-! ## The dead keys -/

/-- A line of a dead-key block: what the character becomes. -/
def pairLine (layout : Layout) (base alt : Char) : Text :=
  Text.hex (shown layout base) ++ ['\t'] ++ Text.hex (shown layout alt) ++
    (if layout.isDeadKey alt then ['@'] else []) ++ "\t// ".toList ++ [shown layout base] ++
    " -> ".toList ++ [shown layout alt]

/-- The table of a layout-defined dead key, by sections: the unshifted pairs, then the shifted
ones. -/
def derivedLines (layout : Layout) : List Text :=
  Sectioned.blocks <| Layout.deadKeyLevels.flatMap fun levels =>
    Key.sections.map <| Sectioned.block Sectioned.slashTitle fun key =>
      ((layout.symbolPair? levels.1 levels.2 key).map fun pair =>
        pairLine layout pair.1 pair.2).toList

def pairLines (layout : Layout) (dk : DeadKey) : List Text :=
  if dk.isLayoutDefined then derivedLines layout
  else dk.pairs.map fun pair => pairLine layout pair.1 pair.2

def deadKeyBlock (layout : Layout) (dk : DeadKey) : List Text :=
  ["// DEADKEY: ".toList ++ Text.upper dk.name ++ " //\x7b\x7b\x7b".toList,
    "DEADKEY\t".toList ++ deadKeyCode dk, []] ++
  pairLines layout dk ++
  [[], pairLine layout '\u00a0' dk.altSpace, pairLine layout ' ' dk.altSpace,
    "//\x7d\x7d\x7d".toList]

def deadKeyLines (layout : Layout) : List Text :=
  Sectioned.blocks (layout.deadKeys.map (deadKeyBlock layout))

def nameLines (layout : Layout) : List Text :=
  layout.deadKeys.map fun dk =>
    deadKeyCode dk ++ "\t\"".toList ++ Text.upper dk.name ++ ['"']

end KeyboardLayout.Klc
