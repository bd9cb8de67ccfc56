import KeyboardLayout.Proofs.Filling
import KeyboardLayout.Registry.Builtin

/-!
# Filling again and in another order

Filling draws one key after the other, and what it draws for a key depends on the key's own cell
only. Keys at different places can therefore be drawn in either order (`drawAt_comm`). A key that
is drawn last need not have been drawn before, even if another key has its place
(`drawAt_drawAt_drawAt`), so that a second filling changes nothing (`fill_fill`). The base pair
shares no place with another pair, since the columns of two pairs are never a whole number of cells
apart, and so the two may be filled in either order (`fill_comm`). This is so on templates of any
shape: a cell that is not there stays out whatever is drawn around it. It is also so wherever the
rows start, even if their columns wrap. `fill_touches_cells` puts this together with what filling
leaves alone.
-/

namespace KeyboardLayout.Drawing

variable {layout : Layout} {pair other : Pair} {lines : List Text} {rows : List Row}

/-! ## Setting characters -/

theorem setChar_comm {i j a b : Nat} (h : ¬(i = j ∧ a = b)) (lines : List Text) (c d : Char) :
    setChar (setChar lines i a c) j b d = setChar (setChar lines j b d) i a c := by
  unfold setChar
  by_cases hi : i = j
  · subst hi
    have ha : a ≠ b := fun ha => h ⟨rfl, ha⟩
    rw [List.modify_modify_eq, List.modify_modify_eq]
    congr 1
    funext line
    exact List.set_comm c d ha
  · exact List.modify_modify_ne _ _ lines hi

theorem setChar_setChar (lines : List Text) (i a : Nat) (c d : Char) :
    setChar (setChar lines i a c) i a d = setChar lines i a d := by
  unfold setChar
  rw [List.modify_modify_eq]
  congr 1
  funext line
  exact List.set_set c

/-! ## Cells -/

/-- What is drawn over a drawn cell is that cell: a character that is left out stays left out. -/
theorem Cell.draw_draw (pair : Pair) (symbols drawn : Cell) :
    Cell.draw pair symbols (Cell.draw pair symbols drawn) = Cell.draw pair symbols drawn := by
  unfold Cell.draw
  by_cases hp : pair = .base
  · simp only [if_pos hp]
    split <;> rfl
  · simp only [if_neg hp]
    split <;> rfl

/-- What is drawn over a cell last hides all of the same that was drawn before. -/
theorem Cell.draw_draw_draw (pair : Pair) (symbols between drawn : Cell) :
    Cell.draw pair symbols (Cell.draw pair between (Cell.draw pair symbols drawn)) =
      Cell.draw pair symbols (Cell.draw pair between drawn) := by
  unfold Cell.draw
  by_cases hp : pair = .base
  · simp only [if_pos hp]
    by_cases hleft : symbols.upper = blank ∨ ¬shiftPartner symbols.lower = symbols.upper <;>
      simp only [hleft, if_true, if_false]
  · simp only [if_neg hp]
    by_cases hleft : shiftPartner symbols.lower = symbols.upper <;>
      simp only [hleft, if_true, if_false]

theorem Place.draw_draw (place : Place) (lines : List Text) (first second : Cell) :
    place.draw (place.draw lines first) second = place.draw lines second := by
  have hne := shiftLine_ne_baseLine place.row place.row
  unfold draw
  rw [setChar_comm fun h => hne h.1.symm, setChar_setChar, setChar_setChar]

theorem Place.draw_comm {place other : Place} (h : place ≠ other) (lines : List Text)
    (cell otherCell : Cell) :
    place.draw (other.draw lines otherCell) cell =
      other.draw (place.draw lines cell) otherCell := by
  -- A line and a column belong to one place only.
  have hapart : ∀ {i j}, other.Covers i other.column → place.Covers j place.column →
      ¬(i = j ∧ other.column = place.column) := by
    rintro i j hi hj ⟨rfl, hcolumn⟩
    exact h (covers_unique hj (hcolumn ▸ hi))
  have hshift : ∀ p : Place, p.Covers (Row.shiftLine p.row) p.column := fun _ => ⟨rfl, Or.inl rfl⟩
  have hbase : ∀ p : Place, p.Covers (Row.baseLine p.row) p.column := fun _ => ⟨rfl, Or.inr rfl⟩
  unfold draw
  rw [setChar_comm (hapart (hbase other) (hshift place)),
    setChar_comm (hapart (hshift other) (hshift place)),
    setChar_comm (hapart (hbase other) (hbase place)),
    setChar_comm (hapart (hshift other) (hbase place))]

/-! ## Drawing keys -/

theorem drawAt_of_missing {p : Key × Place} (h : p.2.cell? lines = none) :
    drawAt layout pair lines p = lines := by
  simp only [drawAt, h]

theorem drawAt_drawAt (p : Key × Place) (lines : List Text) :
    drawAt layout pair (drawAt layout pair lines p) p = drawAt layout pair lines p := by
  cases h : p.2.cell? lines with
  | none => rw [drawAt_of_missing h, drawAt_of_missing h]
  | some drawn =>
      rw [drawAt_of_cell? h, drawAt_of_cell? (Place.cell?_draw h _), Cell.draw_draw,
        Place.draw_draw]

theorem drawAt_comm {p q : Key × Place} (h : p.2 ≠ q.2) (lines : List Text) :
    drawAt layout pair (drawAt layout other lines q) p =
      drawAt layout other (drawAt layout pair lines p) q := by
  have hp : p.2.cell? (drawAt layout other lines q) = p.2.cell? lines :=
    cell?_drawAt_of_ne h lines
  have hq : q.2.cell? (drawAt layout pair lines p) = q.2.cell? lines :=
    cell?_drawAt_of_ne h.symm lines
  cases hcell : p.2.cell? lines with
  | none => rw [drawAt_of_missing (hp.trans hcell), drawAt_of_missing hcell]
  | some drawn =>
      cases hother : q.2.cell? lines with
      | none => rw [drawAt_of_missing hother, drawAt_of_missing (hq.trans hother)]
      | some drawnOther =>
          rw [drawAt_of_cell? (hp.trans hcell), drawAt_of_cell? (hq.trans hother),
            drawAt_of_cell? hcell, drawAt_of_cell? hother, Place.draw_comm h]

/-- A key that is drawn last need not have been drawn before. -/
theorem drawAt_drawAt_drawAt (p q : Key × Place) (lines : List Text) :
    drawAt layout pair (drawAt layout pair (drawAt layout pair lines p) q) p =
      drawAt layout pair (drawAt layout pair lines q) p := by
  by_cases hplace : p.2 = q.2
  · obtain ⟨key, place⟩ := p
    obtain ⟨key', place'⟩ := q
    obtain rfl : place = place' := hplace
    cases h : place.cell? lines with
    | none => rw [drawAt_of_missing (p := (key, place)) h]
    | some drawn =>
        have hagain : ∀ (key : Key) (cell : Cell),
            drawAt layout pair (place.draw lines cell) (key, place) =
              place.draw lines (Cell.draw pair (shownPair layout pair key) cell) := by
          intro key cell
          rw [drawAt_of_cell? (p := (key, place)) (Place.cell?_draw h cell), Place.draw_draw]
        rw [drawAt_of_cell? (p := (key, place)) h, drawAt_of_cell? (p := (key', place)) h,
          hagain, hagain, hagain, Cell.draw_draw_draw]
  · have hcomm : ∀ lines, drawAt layout pair (drawAt layout pair lines q) p =
        drawAt layout pair (drawAt layout pair lines p) q := drawAt_comm hplace
    rw [hcomm, drawAt_drawAt, hcomm]

/-! ## Drawing many keys -/

theorem foldl_drawAt_drawAt {ps : List (Key × Place)} {q : Key × Place}
    (h : ∀ p ∈ ps, p.2 ≠ q.2) (lines : List Text) :
    ps.foldl (drawAt layout pair) (drawAt layout other lines q) =
      drawAt layout other (ps.foldl (drawAt layout pair) lines) q := by
  induction ps generalizing lines with
  | nil => rfl
  | cons p rest ih =>
      obtain ⟨hp, hrest⟩ := List.forall_mem_cons.mp h
      rw [List.foldl_cons, List.foldl_cons, drawAt_comm hp, ih hrest]

theorem foldl_drawAt_comm {ps qs : List (Key × Place)} (h : ∀ p ∈ ps, ∀ q ∈ qs, p.2 ≠ q.2)
    (lines : List Text) :
    ps.foldl (drawAt layout pair) (qs.foldl (drawAt layout other) lines) =
      qs.foldl (drawAt layout other) (ps.foldl (drawAt layout pair) lines) := by
  induction qs generalizing lines with
  | nil => rfl
  | cons q rest ih =>
      have hq : ∀ p ∈ ps, p.2 ≠ q.2 := fun p hp => h p hp q (List.mem_cons_self ..)
      have hrest : ∀ p ∈ ps, ∀ r ∈ rest, p.2 ≠ r.2 :=
        fun p hp r hr => h p hp r (List.mem_cons_of_mem _ hr)
      rw [List.foldl_cons, List.foldl_cons, ih hrest, foldl_drawAt_drawAt hq]

theorem drawAt_foldl_drawAt (p : Key × Place) (qs : List (Key × Place)) (lines : List Text) :
    drawAt layout pair (qs.foldl (drawAt layout pair) (drawAt layout pair lines p)) p =
      drawAt layout pair (qs.foldl (drawAt layout pair) lines) p := by
  induction qs generalizing lines with
  | nil => exact drawAt_drawAt p lines
  | cons q rest ih =>
      rw [List.foldl_cons, List.foldl_cons, ← ih, drawAt_drawAt_drawAt, ih]

/-- What is drawn last need not have been drawn before, whatever is drawn between. -/
theorem foldl_drawAt_foldl_drawAt (ps qs : List (Key × Place)) (lines : List Text) :
    ps.foldl (drawAt layout pair)
        (qs.foldl (drawAt layout pair) (ps.foldl (drawAt layout pair) lines)) =
      ps.foldl (drawAt layout pair) (qs.foldl (drawAt layout pair) lines) := by
  induction ps generalizing qs lines with
  | nil => rfl
  | cons p rest ih =>
      have hrest := ih (qs ++ [p]) lines
      simp only [List.foldl_append, List.foldl_cons, List.foldl_nil] at hrest ⊢
      rw [← List.foldl_append (f := drawAt layout pair), drawAt_foldl_drawAt, List.foldl_append,
        hrest]

/-! ## Filling -/

/-- A second filling changes nothing. -/
theorem fill_fill (layout : Layout) (lines : List Text) (rows : List Row) (pair : Pair) :
    fill layout (fill layout lines rows pair) rows pair = fill layout lines rows pair := by
  simp only [fill_eq_foldl]
  exact foldl_drawAt_foldl_drawAt (places rows pair) [] lines

/-- The base pair and another one may be filled in either order. -/
theorem fill_comm (hrows : ∀ row ∈ rows, row.Fits) (h : pair ≠ .base) (layout : Layout)
    (lines : List Text) :
    fill layout (fill layout lines rows pair) rows .base =
      fill layout (fill layout lines rows .base) rows pair := by
  simp only [fill_eq_foldl]
  exact foldl_drawAt_comm (fun p hp q hq => disjoint_places hrows h hp hq) lines

/-- The pair has a key at that line and column, whether or not a template goes that far. -/
def OnKey (rows : List Row) (pair : Pair) (line column : Nat) : Prop :=
  ∃ j row k, rows[j]? = some row ∧ k < row.keys.length ∧ (line = 1 + 3 * j ∨ line = 2 + 3 * j)
    ∧ column = (row.offset + pair.columnOffset + 6 * k) % 2 ^ 64

theorem onKey_iff {line column : Nat} :
    OnKey rows pair line column ↔ ∃ p ∈ places rows pair, p.2.Covers line column := by
  constructor
  · rintro ⟨j, row, k, hrow, hk, hline, hcolumn⟩
    have hkey := List.getElem?_eq_getElem hk
    exact ⟨(row.keys[k], ⟨j, row.column pair k⟩), mem_places.mpr ⟨row, k, hrow, hkey, rfl⟩,
      hcolumn.trans (row.column_eq pair k).symm, hline⟩
  · rintro ⟨p, hp, hcolumn, hline⟩
    obtain ⟨row, k, hrow, hkey, hplace⟩ := mem_places.mp hp
    obtain ⟨hk, -⟩ := List.getElem?_eq_some_iff.mp hkey
    exact ⟨p.2.row, row, k, hrow, hk, hline, (hcolumn.trans hplace).trans (row.column_eq pair k)⟩

/-- Where no sum of the row overflows a machine word, its keys stand at the plain sums. -/
theorem onKey_iff_of_lt (h : ∀ row ∈ rows, ∀ k < row.keys.length,
      row.offset + pair.columnOffset + 6 * k < 2 ^ 64) {line column : Nat} :
    OnKey rows pair line column ↔ ∃ j row k, rows[j]? = some row ∧ k < row.keys.length
      ∧ (line = 1 + 3 * j ∨ line = 2 + 3 * j)
      ∧ column = row.offset + pair.columnOffset + 6 * k := by
  refine exists_congr fun j => exists_congr fun row => exists_congr fun k => ?_
  refine and_congr_right fun hrow => and_congr_right fun hk => ?_
  rw [Nat.mod_eq_of_lt (h row (List.mem_of_getElem? hrow) k hk)]

/-- **What filling touches.** On any template and any rows, filling keeps the number of the lines
and the length of each, and every character that stands at no key of the pair. The keys stand at
the sums of offsets, where these do not overflow a machine word. Filling once more changes nothing,
and if no row is wider than all columns together, neither does the order in which the base pair and
another one are filled. -/
theorem fill_touches_cells (layout : Layout) (lines : List Text) (rows : List Row) (pair : Pair) :
    (fill layout lines rows pair).map List.length = lines.map List.length
      ∧ (∀ line column, ¬OnKey rows pair line column →
          charAt? (fill layout lines rows pair) line column = charAt? lines line column)
      ∧ ((∀ row ∈ rows, ∀ k < row.keys.length,
            row.offset + pair.columnOffset + 6 * k < 2 ^ 64) →
          ∀ line column, OnKey rows pair line column ↔ ∃ j row k, rows[j]? = some row
            ∧ k < row.keys.length ∧ (line = 1 + 3 * j ∨ line = 2 + 3 * j)
            ∧ column = row.offset + pair.columnOffset + 6 * k)
      ∧ fill layout (fill layout lines rows pair) rows pair = fill layout lines rows pair
      ∧ ((∀ row ∈ rows, row.Fits) → ∀ other, other ≠ .base →
          fill layout (fill layout lines rows other) rows .base =
            fill layout (fill layout lines rows .base) rows other) := by
  refine ⟨length_fill layout lines rows pair, fun line column h => ?_,
    fun h line column => onKey_iff_of_lt h, fill_fill layout lines rows pair,
    fun hrows other hother => fill_comm hrows hother layout lines⟩
  rw [onKey_iff] at h
  exact charAt?_fill_of_not_covers fun p hp hcovers => h ⟨p, hp, hcovers⟩

/-- A row that starts in the last column, with a key that comes twice. -/
def wrappedRows : List Row :=
  [⟨2 ^ 64 - 1, [.ad01, .ad02, .ad01]⟩]

def twoSymbols : Layout :=
  ((Layout.empty {} Registry.Builtin.ergo Registry.builtin).insert .base .ad01 'a').insert .altGr
    .ad01 '@'

def bars : List Text :=
  List.replicate 3 "||||||||".toList

/-- The AltGr symbol of the row's first key is drawn in the second column, and nothing in the third
one. -/
theorem fill_touches_cells_wrapped :
    (∀ row ∈ wrappedRows, row.Fits)
      ∧ charAt? (fill twoSymbols bars wrappedRows .altGr) 2 1 = some '@'
      ∧ charAt? (fill twoSymbols bars wrappedRows .altGr) 2 2 = some '|'
      ∧ fill twoSymbols (fill twoSymbols bars wrappedRows .altGr) wrappedRows .altGr =
          fill twoSymbols bars wrappedRows .altGr
      ∧ fill twoSymbols (fill twoSymbols bars wrappedRows .altGr) wrappedRows .base =
          fill twoSymbols (fill twoSymbols bars wrappedRows .base) wrappedRows .altGr := by
  have hrows : ∀ row ∈ wrappedRows, row.Fits := by decide
  have hfree : ¬OnKey wrappedRows .altGr 2 2 := by
    have hcolumns : ∀ p ∈ places wrappedRows .altGr, p.2.column ≠ 2 := by decide
    rw [onKey_iff]
    rintro ⟨p, hp, hcolumn, -⟩
    exact hcolumns p hp hcolumn.symm
  obtain ⟨-, hkept, -, htwice, horder⟩ := fill_touches_cells twoSymbols bars wrappedRows .altGr
  exact ⟨hrows, by decide, hkept 2 2 hfree, htwice, horder hrows .altGr (by decide)⟩

end KeyboardLayout.Drawing
