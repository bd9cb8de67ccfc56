import KeyboardLayout.Proofs.DeadKeys
import KeyboardLayout.Proofs.Places

/-!
# The faults of a drawing

What is wrong with a drawing can be told without reading it. `faults` lists all of it in the order
in which a reader comes across it: row by row, first the lines that are missing, then the cells
from left to right, where a cell that is not there counts before the symbols of one that is. A
reading ends with the first of these faults (`fault?_read`), whatever it has stored before: what
the registry accepts does not depend on the layout. Hence a reading comes through exactly if the
drawing is `Readable`, and then every key has got the symbols of its cell (`read_rule`).
-/

namespace KeyboardLayout

namespace Layout

variable {layout : Layout} {registry : Registry}

/-! ## Layouts of a registry -/

/-- The dead keys of the layout are dead keys of its registry, maybe with other tables. -/
def Registered (layout : Layout) : Prop :=
  ∀ c, layout.isDeadKey c = true → (layout.registry.deadKey? c).isSome = true

theorem Noted.registered (h : layout.Noted) : layout.Registered := by
  intro c hc
  obtain ⟨dk, hdk, rfl⟩ := List.mem_map.mp (isDeadKey_iff.mp hc)
  rw [h.known dk hdk]
  rfl

theorem Reached.registered {faultless : Bool} (h : Reached registry faultless layout) :
    layout.Registered :=
  (orderly_of_reached h).registered

theorem Registered.put (h : layout.Registered) (level : Level) (key : Key) (c : Char) :
    (Drawing.put layout level key c).Registered := by
  intro d hd
  rw [Drawing.registry_put]
  by_cases hc : c = blank
  · rw [hc, Drawing.put_blank] at hd
    exact h d hd
  · rw [Drawing.put_of_ne hc, isDeadKey_write, isDeadKey_register] at hd
    rcases hd with hd | ⟨rfl, hknown⟩
    · exact h d hd
    · exact hknown

/-- What a reading keeps of a layout, and what its faults depend on. -/
structure Bound (registry : Registry) (board : Text) (layout : Layout) : Prop where
  registry_eq : layout.registry = registry
  board_eq : layout.geometry.name = board
  registered : layout.Registered

theorem Bound.put {board : Text} (h : Bound registry board layout) (level : Level) (key : Key)
    (c : Char) : Bound registry board (Drawing.put layout level key c) where
  registry_eq := (Drawing.registry_put ..).trans h.registry_eq
  board_eq := by rw [Drawing.geometry_put, h.board_eq]
  registered := h.registered.put level key c

end Layout

namespace Drawing

open Layout (Bound)

/-! ## All faults of a drawing -/

section
variable (registry : Registry) (board : Text) (lines : List Text) (pair : Pair)

def symbolFaults (key : Key) (c : Char) : List LayoutError :=
  if Accepted registry c then [] else [.unregisteredDeadKey c key]

def cellFaults (p : Key × Place) : List LayoutError :=
  match p.2.cell? lines with
  | none => [.outOfBounds p.1 (Row.baseLine p.2.row) p.2.column board]
  | some cell =>
    let symbols := cell.byRule pair
    symbolFaults registry p.1 symbols.lower ++ symbolFaults registry p.1 symbols.upper

/-- The fault of a line that is missing is told of the first key that needs it. -/
def lineFaults (first : Key) (offset line : Nat) : List LayoutError :=
  if lines[line]? = none then [.outOfBounds first line offset board] else []

def rowFaults (item : Row × Nat) : List LayoutError :=
  match item.1.keys with
  | [] => []
  | first :: _ =>
    lineFaults board lines first item.1.offset (Row.shiftLine item.2)
      ++ lineFaults board lines first item.1.offset (Row.baseLine item.2)
      ++ (rowPlaces pair item).flatMap (cellFaults registry board lines pair)

/-- All that is wrong with a drawing, in the order of the rows. -/
def faults (rows : List Row) : List LayoutError :=
  rows.zipIdx.flatMap (rowFaults registry board lines pair)

end

/-- Every row with a key has its two lines, every key has its cell on them, and the registry
accepts the symbols that the cell stands for. -/
def Readable (registry : Registry) (lines : List Text) (rows : List Row) (pair : Pair) : Prop :=
  ∀ j row, rows[j]? = some row → row.keys ≠ [] →
    ∃ shift base, lines[Row.shiftLine j]? = some shift ∧ lines[Row.baseLine j]? = some base
      ∧ ∀ k key, row.keys[k]? = some key → ∃ lower upper,
        base[(row.offset + pair.columnOffset + 6 * k) % 2 ^ 64]? = some lower
          ∧ shift[(row.offset + pair.columnOffset + 6 * k) % 2 ^ 64]? = some upper
          ∧ Accepted registry (Cell.byRule pair ⟨lower, upper⟩).lower
          ∧ Accepted registry (Cell.byRule pair ⟨lower, upper⟩).upper

/-! ## The first fault -/

variable {registry : Registry} {board : Text} {layout : Layout} {lines : List Text}
  {rows : List Row} {pair : Pair}

/-- From any layout of the registry on the board the reading ends with the first of the faults, and
leaves such a layout. -/
def Meets (registry : Registry) (board : Text) (reading : Layout → Reading)
    (faults : List LayoutError) : Prop :=
  ∀ layout, Bound registry board layout →
    (reading layout).fault? = faults.head? ∧ Bound registry board (reading layout).layout

theorem meets_readAll {α : Type} {step : Layout → α → Reading} {faultsOf : α → List LayoutError}
    {items : List α} (h : ∀ item ∈ items, Meets registry board (step · item) (faultsOf item)) :
    Meets registry board (readAll step · items) (items.flatMap faultsOf) := by
  induction items with
  | nil => exact fun layout hl => ⟨rfl, hl⟩
  | cons item rest ih =>
      intro layout hl
      obtain ⟨hfault, hfirst⟩ := h item (List.mem_cons_self ..) layout hl
      rw [List.flatMap_cons, List.head?_append, ← hfault]
      simp only [readAll]
      cases hf : (step layout item).fault? with
      | none => exact ih (fun i hi => h i (List.mem_cons_of_mem _ hi)) _ hfirst
      | some fault => exact ⟨hf, hfirst⟩

theorem meets_readSymbol (key : Key) (item : Char × Level) :
    Meets registry board (readSymbol key · item) (symbolFaults registry key item.1) := by
  obtain ⟨c, level⟩ := item
  intro layout h
  show (readSymbol key layout (c, level)).fault? = (symbolFaults registry key c).head?
    ∧ Bound registry board (readSymbol key layout (c, level)).layout
  unfold symbolFaults
  split
  · rename_i hc
    rw [readSymbol_of_accepted h.registry_eq hc]
    exact ⟨rfl, h.put level key c⟩
  · rename_i hc
    rcases readSymbol_cases key layout c level with ⟨-, heq⟩ | ⟨htaken, -⟩
    · rw [heq]
      exact ⟨rfl, h⟩
    · -- A mark that the layout knows as a dead key is known to the registry.
      refine absurd (fun _ hmark => ?_) hc
      have hdead := Layout.isDeadKey_register_of_not_refuses htaken hmark
      rcases (layout.isDeadKey_register c c).mp hdead with hold | ⟨-, hknown⟩
      · exact h.registry_eq ▸ h.registered c hold
      · exact h.registry_eq ▸ hknown

theorem meets_missing (key : Key) (line column : Nat) :
    Meets registry board (missing · key line column) [.outOfBounds key line column board] := by
  intro layout h
  exact ⟨by rw [← h.board_eq]; rfl, h⟩

theorem meets_readPair (key : Key) (s : Cell) :
    Meets registry board (readPair pair key · s)
      (symbolFaults registry key s.lower ++ symbolFaults registry key s.upper) := by
  have hsymbols : Meets registry board (readPair pair key · s)
      ([(s.lower, pair.lower), (s.upper, pair.upper)].flatMap fun item =>
        symbolFaults registry key item.1) :=
    meets_readAll fun item _ => meets_readSymbol key item
  simpa using hsymbols

theorem meets_readCell {j : Nat} {shift base : Text}
    (hshift : lines[Row.shiftLine j]? = some shift) (hbase : lines[Row.baseLine j]? = some base)
    (item : Key × Nat) :
    Meets registry board (readCell pair shift base (Row.baseLine j) · item)
      (cellFaults registry board lines pair (item.1, ⟨j, item.2⟩)) := by
  simp only [readCell_eq hshift hbase, cellFaults]
  cases (Place.mk j item.2).cell? lines with
  | none => exact meets_missing item.1 (Row.baseLine j) item.2
  | some cell =>
      simp only [Cell.symbols_eq_byRule]
      exact meets_readPair item.1 _

theorem meets_readRow (item : Row × Nat) :
    Meets registry board (readRow lines pair · item)
      (rowFaults registry board lines pair item) := by
  obtain ⟨⟨offset, keys⟩, j⟩ := item
  cases keys with
  | nil => exact fun layout h => ⟨rfl, h⟩
  | cons first keys =>
      simp only [readRow, rowFaults, lineFaults]
      cases hshift : lines[Row.shiftLine j]? with
      | none => exact fun layout h => meets_missing first _ _ layout h
      | some shift =>
          cases hbase : lines[Row.baseLine j]? with
          | none => exact fun layout h => meets_missing first _ _ layout h
          | some base =>
              have hcells : Meets registry board
                  (readAll (readCell pair shift base (Row.baseLine j)) ·
                    (Row.cells ⟨offset, first :: keys⟩ pair))
                  ((Row.cells ⟨offset, first :: keys⟩ pair).flatMap fun item =>
                    cellFaults registry board lines pair (item.1, ⟨j, item.2⟩)) :=
                meets_readAll fun item _ => meets_readCell hshift hbase item
              simpa [rowPlaces, List.flatMap_map] using hcells

theorem fault?_read (h : layout.Registered) :
    (read layout lines rows pair).fault? =
      (faults layout.registry layout.geometry.name lines pair rows).head? :=
  (meets_readAll (fun item _ => meets_readRow item) layout ⟨rfl, rfl, h⟩).1

/-! ## Drawings without a fault -/

theorem symbolFaults_eq_nil_iff {key : Key} {c : Char} :
    symbolFaults registry key c = [] ↔ Accepted registry c := by
  unfold symbolFaults
  split <;> simp [*]

theorem cellFaults_eq_nil_iff {p : Key × Place} :
    cellFaults registry board lines pair p = [] ↔
      ∃ cell, p.2.cell? lines = some cell
        ∧ Accepted registry (cell.byRule pair).lower
        ∧ Accepted registry (cell.byRule pair).upper := by
  unfold cellFaults
  cases p.2.cell? lines <;> simp [symbolFaults_eq_nil_iff]

theorem lineFaults_eq_nil_iff {first : Key} {offset line : Nat} :
    lineFaults board lines first offset line = [] ↔ ∃ t, lines[line]? = some t := by
  unfold lineFaults
  cases lines[line]? <;> simp

theorem mem_rowPlaces {row : Row} {j : Nat} {p : Key × Place} :
    p ∈ rowPlaces pair (row, j) ↔
      ∃ k key, row.keys[k]? = some key ∧ p = (key, ⟨j, row.column pair k⟩) := by
  simp only [rowPlaces, Row.cells, List.mem_map, Prod.exists, List.mk_mem_zipIdx_iff_getElem?]
  constructor
  · rintro ⟨key, column, ⟨key, k, hkey, heq⟩, rfl⟩
    obtain ⟨rfl, rfl⟩ := Prod.mk.inj heq
    exact ⟨k, key, hkey, rfl⟩
  · rintro ⟨k, key, hkey, rfl⟩
    exact ⟨key, _, ⟨key, k, hkey, rfl⟩, rfl⟩

theorem rowFaults_eq_nil_iff {row : Row} {j : Nat} :
    rowFaults registry board lines pair (row, j) = [] ↔
      (row.keys ≠ [] → (∃ shift, lines[Row.shiftLine j]? = some shift)
        ∧ (∃ base, lines[Row.baseLine j]? = some base)
        ∧ ∀ p ∈ rowPlaces pair (row, j), ∃ cell, p.2.cell? lines = some cell
          ∧ Accepted registry (cell.byRule pair).lower
          ∧ Accepted registry (cell.byRule pair).upper) := by
  obtain ⟨offset, keys⟩ := row
  cases keys with
  | nil => simp [rowFaults]
  | cons first keys =>
      simp only [rowFaults, List.append_eq_nil_iff, List.flatMap_eq_nil_iff,
        lineFaults_eq_nil_iff, cellFaults_eq_nil_iff, ne_eq, reduceCtorEq, not_false_eq_true,
        true_implies, and_assoc]

/-- A drawing has no fault exactly if it can be read. -/
theorem faults_eq_nil_iff :
    faults registry board lines pair rows = [] ↔ Readable registry lines rows pair := by
  have hrows : faults registry board lines pair rows = [] ↔
      ∀ j row, rows[j]? = some row → rowFaults registry board lines pair (row, j) = [] := by
    simp only [faults, List.flatMap_eq_nil_iff, Prod.forall, List.mk_mem_zipIdx_iff_getElem?]
    exact ⟨fun h j row => h row j, fun h row j => h j row⟩
  rw [hrows]
  refine forall_congr' fun j => forall_congr' fun row => forall_congr' fun hrow => ?_
  rw [rowFaults_eq_nil_iff]
  refine forall_congr' fun hkeys => ?_
  constructor
  · rintro ⟨⟨shift, hshift⟩, ⟨base, hbase⟩, hcells⟩
    refine ⟨shift, base, hshift, hbase, fun k key hkey => ?_⟩
    obtain ⟨⟨lower, upper⟩, hcell, haccepted⟩ :=
      hcells _ (mem_rowPlaces.mpr ⟨k, key, hkey, rfl⟩)
    simp only [Place.cell?_eq_some_iff, charAt?, hshift, hbase, Option.bind_some,
      Row.column_eq] at hcell
    exact ⟨lower, upper, hcell.1, hcell.2, haccepted⟩
  · rintro ⟨shift, base, hshift, hbase, hcells⟩
    refine ⟨⟨shift, hshift⟩, ⟨base, hbase⟩, fun p hp => ?_⟩
    obtain ⟨k, key, hkey, rfl⟩ := mem_rowPlaces.mp hp
    obtain ⟨lower, upper, hlower, hupper, haccepted⟩ := hcells k key hkey
    refine ⟨⟨lower, upper⟩, ?_, haccepted⟩
    simp only [Place.cell?_eq_some_iff, charAt?, hshift, hbase, Option.bind_some, Row.column_eq]
    exact ⟨hlower, hupper⟩

/-! ## What a reading without a fault stores -/

/-- Where no key comes twice, every key has got the symbols of its own cell. -/
theorem stored_readAll_readPlace {cell : Key × Place → Cell} {ps : List (Key × Place)}
    (hkeys : (ps.map (·.1)).Nodup) (hok : (readAll (readPlace pair cell) layout ps).fault? = none)
    {p : Key × Place} (hp : p ∈ ps) :
    Stored pair p.1 (Cell.symbols pair (cell p)) layout
      (readAll (readPlace pair cell) layout ps).layout := by
  -- Keys that do not come have what they had before.
  have hother : ∀ (ps : List (Key × Place)) (l : Layout) (key : Key), key ∉ ps.map (·.1) →
      ∀ level, (readAll (readPlace pair cell) l ps).layout.symbol key level =
        l.symbol key level := by
    intro ps l key hkey level
    refine readAll_reading_induction (Q := fun r => r.layout.symbol key level = l.symbol key level)
      (fun l' q hq hl' => ?_) rfl
    have hne : q.1 ≠ key := fun heq => hkey (heq ▸ List.mem_map_of_mem hq)
    rw [readPlace, symbol_readPair_of_ne hne]
    exact hl'
  induction ps generalizing layout with
  | nil => cases hp
  | cons q rest ih =>
      obtain ⟨hfirst, heq⟩ := fault?_eq_none_of_cons hok
      rw [List.map_cons, List.nodup_cons] at hkeys
      rw [heq] at hok ⊢
      rcases List.mem_cons.mp hp with rfl | hp
      · have hstored := stored_readPair hfirst
        unfold Stored
        rw [hother rest _ p.1 hkeys.1, hother rest _ p.1 hkeys.1]
        exact hstored
      · have hne : q.1 ≠ p.1 := fun heq => hkeys.1 (heq ▸ List.mem_map_of_mem hp)
        have hrest := ih hkeys.2 hok hp
        unfold Stored at hrest ⊢
        rw [readPlace, symbol_readPair_of_ne hne, symbol_readPair_of_ne hne] at hrest
        exact hrest

/-- **The rule of reading.** A reading on rows without repeated keys comes through exactly if the
drawing is readable. Then every key has a cell and has got the symbols that it stands for by the
rule, where a blank one leaves what was there. Otherwise the reading ends with the first fault of
the drawing. -/
theorem read_rule (h : layout.Registered) (hkeys : (rows.flatMap (·.keys)).Nodup) :
    ((read layout lines rows pair).fault? = none ↔ Readable layout.registry lines rows pair)
      ∧ ((read layout lines rows pair).fault? = none →
          ∀ p ∈ places rows pair, ∃ cell, p.2.cell? lines = some cell
            ∧ Stored pair p.1 (cell.byRule pair) layout (read layout lines rows pair).layout)
      ∧ (read layout lines rows pair).fault? =
          (faults layout.registry layout.geometry.name lines pair rows).head? := by
  have hfault : (read layout lines rows pair).fault? = _ := fault?_read h
  refine ⟨?_, fun hok p hp => ?_, hfault⟩
  · rw [hfault, List.head?_eq_none_iff, faults_eq_nil_iff]
  · have hcells : ∀ q ∈ places rows pair,
        q.2.cell? lines = some ((q.2.cell? lines).getD Cell.empty) := by
      intro q hq
      obtain ⟨cell, hcell⟩ := exists_cell_of_read hok hq
      rw [hcell, Option.getD_some]
    refine ⟨_, hcells p hp, ?_⟩
    rw [read_eq_readAll hcells] at hok ⊢
    rw [← Cell.symbols_eq_byRule]
    refine stored_readAll_readPlace ?_ hok hp
    rw [map_fst_places]
    exact hkeys

def fourKeys : List Row :=
  [⟨0, [.ad01, .ad02, .ad03, .ad04]⟩]

/-- Two letters, as a first drawing has left them. -/
def twoLetters : Layout :=
  (read (.empty {} Registry.Builtin.ergo Registry.builtin)
    [[], "Q     W            ".toList, "q     w            ".toList] fourKeys .base).layout

/-- The second cell is blank, the third one blank below and the fourth one blank above. -/
def fourCells : List Text :=
  [[], "A           E      ".toList, "\u0301                 r".toList]

/-- The same with a letter in the second cell, below a mark that is no dead key. -/
def markedCells : List Text :=
  [[], "A     \u0345     E      ".toList, "\u0301     e           r".toList]

/-- The acute accent replaces the first letter and the blank cell leaves the second one; the others
get the partners of what is drawn. The unknown mark is the fault of its key. -/
theorem read_rule_fourKeys :
    twoLetters.Registered ∧ (fourKeys.flatMap (·.keys)).Nodup
      ∧ Readable twoLetters.registry fourCells fourKeys .base
      ∧ (read twoLetters fourCells fourKeys .base).layout.symbol .ad01 .base = some '\u0301'
      ∧ (read twoLetters fourCells fourKeys .base).layout.symbol .ad02 .shift = some 'W'
      ∧ (read twoLetters fourCells fourKeys .base).layout.symbol .ad03 .base = some 'e'
      ∧ (read twoLetters fourCells fourKeys .base).layout.symbol .ad04 .shift = some 'R'
      ∧ (read twoLetters markedCells fourKeys .base).fault? =
          some (.unregisteredDeadKey '\u0345' .ad02)
      ∧ ¬Readable twoLetters.registry markedCells fourKeys .base := by
  have hnew : Layout.new {} "ERGO".toList Registry.builtin
      = .ok (.empty {} Registry.Builtin.ergo Registry.builtin) := rfl
  have h : twoLetters.Registered := (Layout.Reached.read _ _ _ (.new hnew)).registered
  have hkeys : (fourKeys.flatMap (·.keys)).Nodup := by decide
  obtain ⟨hreadable, hstored, hfault⟩ := @read_rule twoLetters fourCells fourKeys .base h hkeys
  have hok := hfault.trans (show _ = none by decide)
  obtain ⟨first, hfirst, hlower, -⟩ := hstored hok (.ad01, ⟨0, 0⟩) (by decide)
  obtain ⟨second, hsecond, -, hupper⟩ := hstored hok (.ad02, ⟨0, 6⟩) (by decide)
  obtain ⟨third, hthird, hbelow, -⟩ := hstored hok (.ad03, ⟨0, 12⟩) (by decide)
  obtain ⟨fourth, hfourth, -, habove⟩ := hstored hok (.ad04, ⟨0, 18⟩) (by decide)
  obtain rfl : Cell.mk '\u0301' 'A' = first := Option.some.inj (by rw [← hfirst]; decide)
  obtain rfl : Cell.mk ' ' ' ' = second := Option.some.inj (by rw [← hsecond]; decide)
  obtain rfl : Cell.mk ' ' 'E' = third := Option.some.inj (by rw [← hthird]; decide)
  obtain rfl : Cell.mk 'r' ' ' = fourth := Option.some.inj (by rw [← hfourth]; decide)
  obtain ⟨hmarked, -, hbad⟩ := @read_rule twoLetters markedCells fourKeys .base h hkeys
  have hmark := hbad.trans (show _ = some (.unregisteredDeadKey '\u0345' .ad02) by decide)
  refine ⟨h, hkeys, hreadable.mp hok, hlower.trans (by decide), hupper.trans (by decide),
    hbelow.trans (by decide), habove.trans (by decide), hmark, fun hread => ?_⟩
  rw [hmarked.mpr hread] at hmark
  cases hmark

end Drawing

end KeyboardLayout
