import KeyboardLayout.Proofs.BrokenReadings
import KeyboardLayout.Registry.Builtin

/-!
# Places that are missing

A reading that ends with a missing place has come to the first key without a cell, and has found the
cells of all keys before it. Where a whole line of the row is missing, the fault names this line.
Otherwise it names the lower one of the two, at the column of the key. That place may well be there,
when it is the upper line that is too short (`outOfBounds_names_gap`).
-/

namespace KeyboardLayout.Drawing

variable {layout : Layout} {lines : List Text} {rows above below : List Row} {row : Row}
  {pair : Pair}

/-! ## Places before a cut -/

theorem places_append (above below : List Row) (pair : Pair) :
    places (above ++ below) pair =
      places above pair ++ (below.zipIdx above.length).flatMap (rowPlaces pair) := by
  simp only [places, List.zipIdx_append, List.flatMap_append, Nat.zero_add]

/-- The place is that of the first key without a cell. -/
def FirstGap (lines : List Text) (rows : List Row) (pair : Pair) (p : Key × Place) : Prop :=
  ∃ before after, places rows pair = before ++ p :: after
    ∧ (∀ q ∈ before, ∃ cell, q.2.cell? lines = some cell) ∧ p.2.cell? lines = none

/-- The places of cut rows are those before the key that comes next. -/
theorem firstGap_of_cutRows {before after : List Key} {key : Key}
    (hrows : rows = above ++ row :: below) (hkeys : row.keys = before ++ key :: after)
    (hcells : ∀ q ∈ places (cutRows above row before) pair, ∃ cell, q.2.cell? lines = some cell)
    (hnone : Place.cell? ⟨above.length, row.column pair before.length⟩ lines = none) :
    FirstGap lines rows pair (key, ⟨above.length, row.column pair before.length⟩) := by
  obtain ⟨later, hplaces⟩ : ∃ later, places rows pair = places (cutRows above row before) pair
      ++ (key, ⟨above.length, row.column pair before.length⟩) :: later := by
    rw [hrows, cutRows, places_append, places_append]
    simp only [List.zipIdx_cons, List.flatMap_cons, List.zipIdx_nil, List.flatMap_nil, rowPlaces,
      Row.cells, hkeys, List.zipIdx_append, List.map_append, List.map_cons, Nat.zero_add,
      List.append_assoc, List.cons_append, List.append_nil]
    exact ⟨_, rfl⟩
  exact ⟨_, later, hplaces, hcells, hnone⟩

/-! ## Missing lines -/

theorem fault?_read_of_append (h : (read layout lines (above ++ below) pair).fault? = none) :
    (read layout lines above pair).fault? = none := by
  unfold read at h ⊢
  rw [List.zipIdx_append, readAll_append] at h
  split at h
  · assumption
  · exact h

/-- Where the upper line of a row is missing, the fault names it. -/
theorem read_eq_missing {first : Key} {more : List Key}
    (habove : (read layout lines above pair).fault? = none) (hkeys : row.keys = first :: more)
    (hshift : lines[Row.shiftLine above.length]? = none) :
    read layout lines (above ++ row :: below) pair =
      missing (read layout lines above pair).layout first (Row.shiftLine above.length)
        row.offset := by
  unfold read at habove ⊢
  rw [List.zipIdx_append, readAll_append, habove, Nat.zero_add, List.zipIdx_cons]
  simp only [readAll, readRow, hkeys, hshift, missing]

/-- A fault that names the lower line of a row, behind keys that have been read, shows that the row
has its upper line. -/
theorem exists_shiftLine {before after : List Key} {key named : Key} {column : Nat} {board : Text}
    (hrows : rows = above ++ row :: below) (hkeys : row.keys = before ++ key :: after)
    (hcut : (read layout lines (cutRows above row before) pair).fault? = none)
    (h : (read layout lines rows pair).fault? =
      some (.outOfBounds named (Row.baseLine above.length) column board)) :
    ∃ shift, lines[Row.shiftLine above.length]? = some shift := by
  refine Option.ne_none_iff_exists'.mp fun hmissing => ?_
  obtain ⟨first, more, hfirst⟩ : ∃ first more, row.keys = first :: more :=
    List.exists_cons_of_ne_nil (hkeys ▸ List.append_ne_nil_of_right_ne_nil _ (List.cons_ne_nil _ _))
  rw [hrows, read_eq_missing (fault?_read_of_append hcut) hfirst hmissing] at h
  have hline := (LayoutError.outOfBounds.inj (Option.some.inj h)).2.1
  exact shiftLine_ne_baseLine _ _ hline

namespace Place

variable {place : Place} {line column : Nat}

/-- The place's row has both lines, and the upper one ends before the column, but not the lower. -/
def Overhangs (place : Place) (lines : List Text) : Prop :=
  ∃ shift base, lines[Row.shiftLine place.row]? = some shift
    ∧ lines[Row.baseLine place.row]? = some base
    ∧ shift.length ≤ place.column ∧ place.column < base.length

theorem charAt?_eq_none_of_line (h : lines[line]? = none) : charAt? lines line column = none := by
  rw [charAt?, h, Option.bind_none]

/-- A row without one of its lines has no cell, and nothing overhangs. -/
theorem not_overhangs_of_line
    (hline : line = Row.shiftLine place.row ∨ line = Row.baseLine place.row)
    (h : lines[line]? = none) : place.cell? lines = none ∧ ¬place.Overhangs lines := by
  constructor
  · refine Option.eq_none_iff_forall_ne_some.mpr fun cell hcell => ?_
    obtain ⟨hbase, hshift⟩ := cell?_eq_some_iff.mp hcell
    rcases hline with rfl | rfl
    · cases (charAt?_eq_none_of_line h).symm.trans hshift
    · cases (charAt?_eq_none_of_line h).symm.trans hbase
  · rintro ⟨shift, base, hshift, hbase, -⟩
    rcases hline with rfl | rfl
    · cases h.symm.trans hshift
    · cases h.symm.trans hbase

/-- In a row with its upper line, a gap with a character on the lower line is an overhang. -/
theorem charAt?_baseLine_ne_none_iff {shift : Text}
    (hshift : lines[Row.shiftLine place.row]? = some shift) (hnone : place.cell? lines = none) :
    charAt? lines (Row.baseLine place.row) place.column ≠ none ↔ place.Overhangs lines := by
  constructor
  · intro hbase
    obtain ⟨lower, hlower⟩ := Option.ne_none_iff_exists'.mp hbase
    obtain ⟨base, hline, hat⟩ := Option.bind_eq_some_iff.mp hlower
    refine ⟨shift, base, hshift, hline, ?_, (List.getElem?_eq_some_iff.mp hat).1⟩
    refine List.getElem?_eq_none_iff.mp ?_
    refine Option.eq_none_iff_forall_ne_some.mpr fun upper hupper => ?_
    have hcell : place.cell? lines = some ⟨lower, upper⟩ :=
      cell?_eq_some_iff.mpr ⟨hlower, by rw [charAt?, hshift, Option.bind_some, hupper]⟩
    cases hnone.symm.trans hcell
  · rintro ⟨-, base, -, hline, -, hlt⟩
    rw [charAt?, hline, Option.bind_some, List.getElem?_eq_getElem hlt]
    exact Option.some_ne_none _

end Place

/-! ## What a fault names -/

/-- **The place that a fault names.** A reading that ends with a missing place has met the first key
without a cell. The fault names a line of its row, where nothing is missing exactly if the lower
line overhangs the upper one. -/
theorem outOfBounds_names_gap {key : Key} {line column : Nat} {board : Text}
    (h : (read layout lines rows pair).fault? = some (.outOfBounds key line column board)) :
    ∃ place, FirstGap lines rows pair (key, place)
      ∧ (line = Row.shiftLine place.row ∨ line = Row.baseLine place.row)
      ∧ board = layout.geometry.name
      ∧ (charAt? lines line column ≠ none ↔ place.Overhangs lines) := by
  have hbroken := brokenOff_read (h ▸ Option.some_ne_none _)
  have hread := h
  generalize read layout lines rows pair = reading at hread hbroken
  cases hbroken with
  | @line above below row first _ hrows hfirst hline hmissing habove =>
      obtain ⟨rfl, rfl, rfl, rfl⟩ := LayoutError.outOfBounds.inj (Option.some.inj hread)
      obtain ⟨more, hkeys⟩ := List.head?_eq_some_iff.mp hfirst
      have hcells : ∀ q ∈ places (cutRows above row []) pair,
          ∃ cell, q.2.cell? lines = some cell := by
        intro q hq
        rw [cutRows, places_append] at hq
        exact exists_cell_of_read habove (by simpa [rowPlaces, Row.cells] using hq)
      have hover : ∀ place : Place, place.row = above.length →
          place.cell? lines = none ∧ ¬place.Overhangs lines :=
        fun place hplace => Place.not_overhangs_of_line (hplace ▸ hline) hmissing
      obtain ⟨hnone, hover⟩ := hover ⟨above.length, row.column pair 0⟩ rfl
      have hgap : FirstGap lines rows pair (first, ⟨above.length, row.column pair 0⟩) :=
        firstGap_of_cutRows hrows hkeys hcells hnone
      refine ⟨_, hgap, hline, rfl, ?_⟩
      exact iff_of_false (not_not_intro (Place.charAt?_eq_none_of_line hmissing)) hover
  | @cell above below row before after here _ hrows hkeys hcut hcell =>
      cases hcell with
      | lower => cases hread
      | upper => cases hread
      | missing hnone =>
          obtain ⟨rfl, rfl, rfl, rfl⟩ := LayoutError.outOfBounds.inj (Option.some.inj hread)
          have hcells := fun q hq => exists_cell_of_read (p := q) hcut hq
          obtain ⟨shift, hshift⟩ := exists_shiftLine hrows hkeys hcut h
          exact ⟨_, firstGap_of_cutRows hrows hkeys hcells hnone, Or.inr rfl,
            congrArg Geometry.name (frame_read ..).2.1,
            Place.charAt?_baseLine_ne_none_iff hshift hnone⟩

/-- Two keys of which the drawing has one. -/
theorem outOfBounds_names_gap_short :
    (read (.empty {} Registry.Builtin.iso Registry.builtin) [[], "A".toList, "a".toList]
        [⟨0, [.ad01, .ad02]⟩] .base).fault? = some (.outOfBounds .ad02 2 6 "ISO".toList)
      ∧ charAt? [[], "A".toList, "a".toList] 2 6 = none := by
  have h : (read (.empty {} Registry.Builtin.iso Registry.builtin) [[], "A".toList, "a".toList]
      [⟨0, [.ad01, .ad02]⟩] .base).fault? = some (.outOfBounds .ad02 2 6 "ISO".toList) := by decide
  refine ⟨h, ?_⟩
  obtain ⟨place, -, hline, -, hthere⟩ := outOfBounds_names_gap h
  have hrow : place.row = 0 := by
    simp only [Row.shiftLine, Row.baseLine] at hline
    omega
  refine Classical.not_not.mp fun hne => ?_
  obtain ⟨shift, base, hshift, hbase, hle, hlt⟩ := hthere.mp hne
  rw [hrow] at hshift hbase
  cases hshift
  cases hbase
  exact absurd (Nat.lt_of_le_of_lt hle hlt) (by decide)

/-- The upper line is empty, but the fault names the lower one, where the key has its letter. -/
theorem outOfBounds_names_letter :
    (read (.empty {} Registry.Builtin.iso Registry.builtin) [[], [], "a".toList] [⟨0, [.ad01]⟩]
        .base).fault? = some (.outOfBounds .ad01 2 0 "ISO".toList)
      ∧ charAt? [[], [], "a".toList] 2 0 = some 'a' := by
  decide

end KeyboardLayout.Drawing
