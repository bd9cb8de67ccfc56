import KeyboardLayout.Layout.Basic
import KeyboardLayout.Shift

/-!
# Drawings

A drawing shows a pair of levels: the shifted symbol of a key stands above the unshifted one. What
can be derived is left blank. `read` takes the symbols of a drawing into a layout, cell by cell,
and stops at the first fault with all that it stored before; `fill` draws a layout into the blank
cells of a board.
-/

namespace KeyboardLayout.Drawing

/-! ## Cells -/

/-- What a drawing shows for one key. -/
structure Cell where
  lower : Char
  upper : Char
  deriving DecidableEq, Repr

/-- The symbols that a cell stands for. In the base pair the shifted symbol prevails, so that a
blank below it takes its base partner; otherwise a blank above takes the shift partner. -/
def Cell.symbols (pair : Pair) (cell : Cell) : Cell :=
  if pair = .base ∧ cell.lower = blank then ⟨basePartner cell.upper, cell.upper⟩
  else if cell.upper = blank then ⟨cell.lower, shiftPartner cell.lower⟩
  else cell

/-- The cell that shows what a key produces, in place of what was drawn there. In the base pair
the lower symbol is left out when it can be derived, in the other pairs the upper one. -/
def Cell.draw (pair : Pair) (symbols : Cell) (drawn : Cell) : Cell :=
  let derivable := shiftPartner symbols.lower = symbols.upper
  if pair = .base then
    ⟨if symbols.upper = blank ∨ ¬derivable then symbols.lower else drawn.lower, symbols.upper⟩
  else
    ⟨symbols.lower, if derivable then drawn.upper else symbols.upper⟩

/-! ## Reading -/

/-- How far a reading came: the layout with all that was stored, and the fault that ended it. -/
structure Reading where
  layout : Layout
  fault? : Option LayoutError

/-- Reads one item after the other until the first fault. -/
def readAll {α : Type} (step : Layout → α → Reading) (layout : Layout) : List α → Reading
  | [] => ⟨layout, none⟩
  | item :: rest =>
    let reading := step layout item
    match reading.fault? with
    | none => readAll step reading.layout rest
    | some _ => reading

/-- Reads one symbol; a blank says nothing. -/
def readSymbol (key : Key) (layout : Layout) (item : Char × Level) : Reading :=
  if item.1 = blank then ⟨layout, none⟩
  else
    match layout.store item.2 key item.1 with
    | .ok layout => ⟨layout, none⟩
    | .error fault => ⟨layout, some fault⟩

/-- A fault for a place that the drawing does not have. -/
def missing (layout : Layout) (key : Key) (line column : Nat) : Reading :=
  ⟨layout, some (.outOfBounds key line column layout.geometry.name)⟩

/-- Reads the cell of one key from the two lines of its row, the one numbered `baseLine` being the
lower. -/
def readCell (pair : Pair) (shift base : Text) (baseLine : Nat) (layout : Layout)
    (item : Key × Nat) : Reading :=
  match base[item.2]?, shift[item.2]? with
  | some lower, some upper =>
    let symbols := (Cell.mk lower upper).symbols pair
    readAll (readSymbol item.1) layout
      [(symbols.lower, pair.lower), (symbols.upper, pair.upper)]
  | _, _ => missing layout item.1 baseLine item.2

/-- Reads a row of keys; the row's number says which lines it stands on. -/
def readRow (lines : List Text) (pair : Pair) (layout : Layout) (item : Row × Nat) : Reading :=
  match item.1.keys with
  | [] => ⟨layout, none⟩
  | first :: _ =>
    match lines[Row.shiftLine item.2]?, lines[Row.baseLine item.2]? with
    | none, _ => missing layout first (Row.shiftLine item.2) item.1.offset
    | some _, none => missing layout first (Row.baseLine item.2) item.1.offset
    | some shift, some base =>
      readAll (readCell pair shift base (Row.baseLine item.2)) layout (item.1.cells pair)

/-- Reads one pair of levels of the layout from a drawing. -/
def read (layout : Layout) (lines : List Text) (rows : List Row) (pair : Pair) : Reading :=
  readAll (readRow lines pair) layout rows.zipIdx

/-! ## Filling -/

/-- What the key produces at a level, as a drawing shows it. -/
def shown (layout : Layout) (key : Key) (level : Level) : Char :=
  (layout.symbol key level).getD blank

/-- Draws the cell of one key into the two lines of its row, the upper line first. A cell that is
not there is left out. -/
def fillCell (layout : Layout) (pair : Pair) (lines : Text × Text) (item : Key × Nat) :
    Text × Text :=
  match lines.2[item.2]?, lines.1[item.2]? with
  | some lower, some upper =>
    let cell := Cell.draw pair
      ⟨shown layout item.1 pair.lower, shown layout item.1 pair.upper⟩ ⟨lower, upper⟩
    (lines.1.set item.2 cell.upper, lines.2.set item.2 cell.lower)
  | _, _ => lines

/-- Draws a row of keys. A row whose lines are not there is left out. -/
def fillRow (layout : Layout) (pair : Pair) (lines : List Text) (item : Row × Nat) :
    List Text :=
  match lines[Row.shiftLine item.2]?, lines[Row.baseLine item.2]? with
  | some shift, some base =>
    let filled := (item.1.cells pair).foldl (fillCell layout pair) (shift, base)
    (lines.set (Row.shiftLine item.2) filled.1).set (Row.baseLine item.2) filled.2
  | _, _ => lines

def fill (layout : Layout) (lines : List Text) (rows : List Row) (pair : Pair) : List Text :=
  rows.zipIdx.foldl (fillRow layout pair) lines

/-- The drawing of the pairs on the board of that name. -/
def ofLayout (layout : Layout) (pairs : List Pair) (geometry : Text) :
    Except LayoutError (List Text) :=
  (layout.registry.geometry geometry).map fun geometry =>
    pairs.foldl (fun lines pair => fill layout lines geometry.rows pair) geometry.template

/-! ## Facts about readings -/

/-- What every step of a reading keeps, the whole reading keeps. -/
theorem readAll_induction {α : Type} {step : Layout → α → Reading} {P : Layout → Prop}
    (hstep : ∀ layout item, P layout → P (step layout item).layout)
    {layout : Layout} (items : List α) (h : P layout) : P (readAll step layout items).layout := by
  induction items generalizing layout with
  | nil => exact h
  | cons item rest ih =>
    simp only [readAll]
    split
    · exact ih (hstep layout item h)
    · exact hstep layout item h

theorem readAll_append {α : Type} (step : Layout → α → Reading) (layout : Layout)
    (items more : List α) :
    readAll step layout (items ++ more) =
      match (readAll step layout items).fault? with
      | none => readAll step (readAll step layout items).layout more
      | some _ => readAll step layout items := by
  induction items generalizing layout with
  | nil => rfl
  | cons item rest ih =>
    simp only [List.cons_append, readAll]
    cases h : (step layout item).fault? with
    | none => simp [ih]
    | some fault => simp [h]

end KeyboardLayout.Drawing
