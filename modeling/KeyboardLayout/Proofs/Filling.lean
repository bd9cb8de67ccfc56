import KeyboardLayout.Proofs.Cells
import KeyboardLayout.Proofs.Places

/-!
# Filling, one cell after the other

Filling a drawing sets two characters for each key and touches nothing else. The main statements
say what a filled drawing shows: at the place of a key the cell that its symbols are drawn as
(`cell?_fill`), and everywhere else what was there before (`charAt?_fill_of_not_covers`). The same
holds of pairs that are drawn one over the other (`cell?_drawnOver`).
-/

namespace KeyboardLayout.Drawing

/-! ## Setting characters -/

/-- The drawing with one character set, if there is one at that place. -/
def setChar (lines : List Text) (line column : Nat) (c : Char) : List Text :=
  lines.modify line (·.set column c)

theorem charAt?_setChar (lines : List Text) (i j a b : Nat) (c : Char) :
    charAt? (setChar lines i a c) j b =
      if i = j ∧ a = b then (charAt? lines j b).map fun _ => c else charAt? lines j b := by
  unfold charAt? setChar
  rw [List.getElem?_modify]
  cases h : lines[j]? with
  | none => simp
  | some text =>
      by_cases hi : i = j
      · by_cases ha : a = b
        · subst ha
          cases hc : text[a]? <;> simp [hi, hc, List.getElem?_set]
          · exact List.getElem?_eq_none_iff.mp hc
          · exact (List.getElem?_eq_some_iff.mp hc).1
        · simp [hi, ha, List.getElem?_set_ne ha]
      · simp [hi]

theorem setChar_of_getElem? {lines : List Text} {line : Nat} {t : Text}
    (h : lines[line]? = some t) (column : Nat) (c : Char) :
    setChar lines line column c = lines.set line (t.set column c) := by
  simp [setChar, List.modify_eq_set, h]

/-- The drawing with a cell drawn at the place. -/
def Place.draw (place : Place) (lines : List Text) (cell : Cell) : List Text :=
  setChar (setChar lines (Row.shiftLine place.row) place.column cell.upper)
    (Row.baseLine place.row) place.column cell.lower

/-- Away from the place the characters stay. -/
theorem Place.charAt?_draw_of_not_covers {place : Place} {line column : Nat}
    (h : ¬place.Covers line column) (lines : List Text) (cell : Cell) :
    charAt? (place.draw lines cell) line column = charAt? lines line column := by
  unfold Covers at h
  rw [draw, charAt?_setChar, charAt?_setChar, if_neg, if_neg] <;> grind

theorem Place.cell?_draw {place : Place} {lines : List Text} {drawn : Cell}
    (h : place.cell? lines = some drawn) (cell : Cell) :
    place.cell? (place.draw lines cell) = some cell := by
  rw [cell?_eq_some_iff] at h ⊢
  have hne := shiftLine_ne_baseLine place.row place.row
  simp [draw, charAt?_setChar, h.1, h.2, hne, hne.symm]

theorem Place.cell?_draw_of_ne {place other : Place} (h : other ≠ place) (lines : List Text)
    (cell : Cell) : other.cell? (place.draw lines cell) = other.cell? lines := by
  have hne : ∀ line, other.Covers line other.column → ¬place.Covers line other.column :=
    fun _ hother hplace => h (covers_unique hother hplace)
  unfold cell?
  rw [charAt?_draw_of_not_covers (hne _ ⟨rfl, Or.inr rfl⟩),
    charAt?_draw_of_not_covers (hne _ ⟨rfl, Or.inl rfl⟩)]

/-! ## Drawing keys -/

variable {layout : Layout} {pair : Pair}

/-- What a key produces at a pair of levels, as a drawing shows it. -/
def shownPair (layout : Layout) (pair : Pair) (key : Key) : Cell :=
  ⟨shown layout key pair.lower, shown layout key pair.upper⟩

/-- Draws one key at its place, if the drawing has the place. -/
def drawAt (layout : Layout) (pair : Pair) (lines : List Text) (p : Key × Place) : List Text :=
  match p.2.cell? lines with
  | some drawn => p.2.draw lines (Cell.draw pair (shownPair layout pair p.1) drawn)
  | none => lines

theorem drawAt_of_cell? {lines : List Text} {p : Key × Place} {drawn : Cell}
    (h : p.2.cell? lines = some drawn) :
    drawAt layout pair lines p =
      p.2.draw lines (Cell.draw pair (shownPair layout pair p.1) drawn) := by
  simp [drawAt, h]

theorem charAt?_drawAt_of_not_covers {p : Key × Place} {line column : Nat}
    (h : ¬p.2.Covers line column) (lines : List Text) :
    charAt? (drawAt layout pair lines p) line column = charAt? lines line column := by
  unfold drawAt
  split
  · exact Place.charAt?_draw_of_not_covers h ..
  · rfl

theorem cell?_drawAt_of_ne {p : Key × Place} {place : Place} (h : place ≠ p.2)
    (lines : List Text) : place.cell? (drawAt layout pair lines p) = place.cell? lines := by
  unfold drawAt
  split
  · exact Place.cell?_draw_of_ne h ..
  · rfl

theorem charAt?_foldl_drawAt_of_not_covers {ps : List (Key × Place)} {line column : Nat}
    (h : ∀ p ∈ ps, ¬p.2.Covers line column) (lines : List Text) :
    charAt? (ps.foldl (drawAt layout pair) lines) line column = charAt? lines line column := by
  induction ps generalizing lines with
  | nil => rfl
  | cons p rest ih =>
      rw [List.foldl_cons, ih fun q hq => h q (List.mem_cons_of_mem _ hq),
        charAt?_drawAt_of_not_covers (h p (List.mem_cons_self ..))]

theorem cell?_foldl_drawAt_of_not_mem {ps : List (Key × Place)} {place : Place}
    (h : ∀ p ∈ ps, place ≠ p.2) (lines : List Text) :
    place.cell? (ps.foldl (drawAt layout pair) lines) = place.cell? lines := by
  induction ps generalizing lines with
  | nil => rfl
  | cons p rest ih =>
      rw [List.foldl_cons, ih fun q hq => h q (List.mem_cons_of_mem _ hq),
        cell?_drawAt_of_ne (h p (List.mem_cons_self ..))]

/-- At distinct places every key is drawn over what stood there first. -/
theorem cell?_foldl_drawAt {ps : List (Key × Place)} (hnodup : (ps.map (·.2)).Nodup)
    {p : Key × Place} (hp : p ∈ ps) {lines : List Text} {drawn : Cell}
    (h : p.2.cell? lines = some drawn) :
    p.2.cell? (ps.foldl (drawAt layout pair) lines) =
      some (Cell.draw pair (shownPair layout pair p.1) drawn) := by
  induction ps generalizing lines with
  | nil => cases hp
  | cons q rest ih =>
      rw [List.map_cons, List.nodup_cons] at hnodup
      rw [List.foldl_cons]
      rcases List.mem_cons.mp hp with rfl | hp
      · rw [cell?_foldl_drawAt_of_not_mem, drawAt_of_cell? h, Place.cell?_draw h]
        exact fun r hr heq => hnodup.1 (heq ▸ List.mem_map_of_mem hr)
      · refine ih hnodup.2 hp ?_
        rwa [cell?_drawAt_of_ne]
        exact fun heq => hnodup.1 (heq ▸ List.mem_map_of_mem hp)

/-! ## Filling -/

theorem set_set_overwrite {i j : Nat} (h : i ≠ j) (lines : List Text) (s t s' t' : Text) :
    (((lines.set i s).set j t).set i s').set j t' = (lines.set i s').set j t' := by
  rw [List.set_comm t s' h.symm, List.set_set, List.set_set]

/-- Filling one cell of a row's two lines draws its key. -/
theorem drawAt_eq_fillCell {j : Nat} {lines : List Text} {shift base : Text}
    (hshift : lines[Row.shiftLine j]? = some shift) (hbase : lines[Row.baseLine j]? = some base)
    (cell : Key × Nat) :
    drawAt layout pair lines (cell.1, ⟨j, cell.2⟩) =
      (lines.set (Row.shiftLine j) (fillCell layout pair (shift, base) cell).1).set
        (Row.baseLine j) (fillCell layout pair (shift, base) cell).2 := by
  have hne := shiftLine_ne_baseLine j j
  have hcell : ∀ drawn, (Place.mk j cell.2).cell? lines = some drawn ↔
      base[cell.2]? = some drawn.lower ∧ shift[cell.2]? = some drawn.upper := by
    simp [Place.cell?_eq_some_iff, charAt?, hshift, hbase]
  unfold fillCell
  split
  · rename_i lower upper hlower hupper
    rw [drawAt_of_cell? ((hcell ⟨lower, upper⟩).mpr ⟨hlower, hupper⟩), Place.draw,
      setChar_of_getElem? hshift,
      setChar_of_getElem? (by rw [List.getElem?_set_ne hne, hbase])]
    rfl
  · rename_i hnone
    have hmissing : (Place.mk j cell.2).cell? lines = none := by
      rw [Option.eq_none_iff_forall_ne_some]
      intro drawn hdrawn
      rw [hcell] at hdrawn
      exact hnone _ _ hdrawn.1 hdrawn.2
    obtain ⟨hi, rfl⟩ := List.getElem?_eq_some_iff.mp hshift
    obtain ⟨hj, rfl⟩ := List.getElem?_eq_some_iff.mp hbase
    simp [drawAt, hmissing]

theorem foldl_fillCell {j : Nat} (cells : List (Key × Nat)) {lines : List Text} {shift base : Text}
    (hshift : lines[Row.shiftLine j]? = some shift) (hbase : lines[Row.baseLine j]? = some base) :
    (lines.set (Row.shiftLine j) (cells.foldl (fillCell layout pair) (shift, base)).1).set
        (Row.baseLine j) (cells.foldl (fillCell layout pair) (shift, base)).2 =
      (cells.map fun cell => (cell.1, Place.mk j cell.2)).foldl (drawAt layout pair) lines := by
  have hne := shiftLine_ne_baseLine j j
  induction cells generalizing lines shift base with
  | nil =>
      obtain ⟨hi, rfl⟩ := List.getElem?_eq_some_iff.mp hshift
      obtain ⟨hj, rfl⟩ := List.getElem?_eq_some_iff.mp hbase
      simp
  | cons cell rest ih =>
      generalize hfilled : fillCell layout pair (shift, base) cell = filled
      have hshift' : ((lines.set (Row.shiftLine j) filled.1).set (Row.baseLine j)
          filled.2)[Row.shiftLine j]? = some filled.1 := by grind
      have hbase' : ((lines.set (Row.shiftLine j) filled.1).set (Row.baseLine j)
          filled.2)[Row.baseLine j]? = some filled.2 := by grind
      rw [List.foldl_cons, List.map_cons, List.foldl_cons, drawAt_eq_fillCell hshift hbase,
        hfilled, ← ih hshift' hbase', set_set_overwrite hne]

theorem fillRow_eq_foldl (lines : List Text) (item : Row × Nat) :
    fillRow layout pair lines item = (rowPlaces pair item).foldl (drawAt layout pair) lines := by
  obtain ⟨row, j⟩ := item
  unfold fillRow
  split
  · rename_i shift base hshift hbase
    exact foldl_fillCell _ hshift hbase
  · rename_i hnone
    have hskip : ∀ p ∈ rowPlaces pair (row, j), drawAt layout pair lines p = lines := by
      intro p hp
      obtain ⟨cell, -, rfl⟩ := List.mem_map.mp hp
      unfold drawAt
      split
      · rename_i drawn hdrawn
        simp only [Place.cell?_eq_some_iff, charAt?, Option.bind_eq_some_iff] at hdrawn
        obtain ⟨⟨base, hbase, -⟩, shift, hshift, -⟩ := hdrawn
        exact (hnone shift base hshift hbase).elim
      · rfl
    generalize rowPlaces pair (row, j) = ps at hskip
    induction ps with
    | nil => rfl
    | cons p rest ih =>
        rw [List.foldl_cons, hskip p (List.mem_cons_self ..),
          ← ih fun q hq => hskip q (List.mem_cons_of_mem _ hq)]

/-- Filling draws the keys one after the other. -/
theorem fill_eq_foldl (layout : Layout) (lines : List Text) (rows : List Row) (pair : Pair) :
    fill layout lines rows pair = (places rows pair).foldl (drawAt layout pair) lines := by
  unfold fill places
  generalize rows.zipIdx = items
  induction items generalizing lines with
  | nil => rfl
  | cons item rest ih =>
      rw [List.foldl_cons, List.flatMap_cons, List.foldl_append, fillRow_eq_foldl, ih]

variable {lines : List Text} {rows : List Row}

/-- Where no key of the pair stands, filling changes nothing. -/
theorem charAt?_fill_of_not_covers {line column : Nat}
    (h : ∀ p ∈ places rows pair, ¬p.2.Covers line column) :
    charAt? (fill layout lines rows pair) line column = charAt? lines line column := by
  rw [fill_eq_foldl, charAt?_foldl_drawAt_of_not_covers h]

theorem cell?_fill_of_not_mem {place : Place} (h : ∀ p ∈ places rows pair, place ≠ p.2) :
    place.cell? (fill layout lines rows pair) = place.cell? lines := by
  rw [fill_eq_foldl, cell?_foldl_drawAt_of_not_mem h]

/-- Every key of the pair is drawn over what stood at its place. -/
theorem cell?_fill (hrows : ∀ row ∈ rows, row.Fits) {p : Key × Place}
    (hp : p ∈ places rows pair) {drawn : Cell} (h : p.2.cell? lines = some drawn) :
    p.2.cell? (fill layout lines rows pair) =
      some (Cell.draw pair (shownPair layout pair p.1) drawn) := by
  rw [fill_eq_foldl, cell?_foldl_drawAt (nodup_places hrows pair) hp h]

/-! ## The lines of a filled drawing -/

theorem mem_iff_charAt? {c : Char} :
    (∃ line ∈ lines, c ∈ line) ↔ ∃ i j, charAt? lines i j = some c := by
  simp only [charAt?, Option.bind_eq_some_iff, List.mem_iff_getElem?]
  grind

/-- Filling keeps a character out of a drawing that is neither there nor shown by a key of the
board. -/
theorem charAt?_fill_ne {c : Char} (hlines : ∀ i j, charAt? lines i j ≠ some c)
    (hshown : ∀ key ∈ rows.flatMap (·.keys),
      shown layout key pair.lower ≠ c ∧ shown layout key pair.upper ≠ c) (i j : Nat) :
    charAt? (fill layout lines rows pair) i j ≠ some c := by
  rw [← map_fst_places rows pair, List.forall_mem_map] at hshown
  rw [fill_eq_foldl]
  generalize places rows pair = ps at hshown
  induction ps generalizing lines with
  | nil => exact hlines i j
  | cons p rest ih =>
      obtain ⟨⟨hl, hu⟩, hrest⟩ := List.forall_mem_cons.mp hshown
      refine ih (fun i j => ?_) hrest
      unfold drawAt
      split
      · rename_i drawn hdrawn
        rw [Place.cell?_eq_some_iff] at hdrawn
        have hlower : drawn.lower ≠ c := fun h => hlines _ _ (h ▸ hdrawn.1)
        have hupper : drawn.upper ≠ c := fun h => hlines _ _ (h ▸ hdrawn.2)
        have hold := hlines i j
        rw [Place.draw, charAt?_setChar, charAt?_setChar]
        unfold Cell.draw shownPair
        grind
      · exact hlines i j

theorem length_setChar (lines : List Text) (line column : Nat) (c : Char) :
    (setChar lines line column c).map List.length = lines.map List.length := by
  apply List.ext_getElem?
  intro i
  simp only [setChar, List.getElem?_map, List.getElem?_modify]
  cases lines[i]? <;> grind

/-- Filling keeps the number and the lengths of the lines. -/
theorem length_fill (layout : Layout) (lines : List Text) (rows : List Row) (pair : Pair) :
    (fill layout lines rows pair).map List.length = lines.map List.length := by
  rw [fill_eq_foldl]
  generalize places rows pair = ps
  induction ps generalizing lines with
  | nil => rfl
  | cons p rest ih =>
      rw [List.foldl_cons, ih]
      unfold drawAt
      split
      · rw [Place.draw, length_setChar, length_setChar]
      · rfl

/-! ## Pairs drawn one over the other -/

/-- The pairs drawn one over the other. -/
def drawnOver (layout : Layout) (rows : List Row) (template : List Text) (pairs : List Pair) :
    List Text :=
  pairs.foldl (fun lines pair => fill layout lines rows pair) template

variable {template : List Text} {pairs : List Pair}

theorem length_drawnOver (layout : Layout) (rows : List Row) (template : List Text)
    (pairs : List Pair) :
    (drawnOver layout rows template pairs).map List.length = template.map List.length := by
  induction pairs generalizing template with
  | nil => rfl
  | cons pair rest ih => exact (ih (fill layout template rows pair)).trans (length_fill ..)

theorem cell?_drawnOver_of_not_mem {place : Place}
    (h : ∀ pair ∈ pairs, ∀ p ∈ places rows pair, place ≠ p.2) :
    place.cell? (drawnOver layout rows template pairs) = place.cell? template := by
  induction pairs generalizing template with
  | nil => rfl
  | cons pair rest ih =>
      obtain ⟨hpair, hrest⟩ := List.forall_mem_cons.mp h
      exact (ih hrest).trans (cell?_fill_of_not_mem hpair)

/-- Every key is drawn over what stood at its place, also if only the base pair goes before the
others. -/
theorem cell?_drawnOver (hrows : ∀ row ∈ rows, row.Fits)
    (hpairs : pairs.Pairwise fun earlier later => earlier = .base ∧ later ≠ .base)
    (hpair : pair ∈ pairs) {p : Key × Place} (hp : p ∈ places rows pair) {drawn : Cell}
    (h : p.2.cell? template = some drawn) :
    p.2.cell? (drawnOver layout rows template pairs) =
      some (Cell.draw pair (shownPair layout pair p.1) drawn) := by
  induction pairs generalizing template with
  | nil => cases hpair
  | cons first rest ih =>
      obtain ⟨hfirst, hrest⟩ := List.pairwise_cons.mp hpairs
      rcases List.mem_cons.mp hpair with rfl | hlater
      · have hkept : p.2.cell? (drawnOver layout rows (fill layout template rows pair) rest) =
            p.2.cell? (fill layout template rows pair) := by
          refine cell?_drawnOver_of_not_mem fun later hlater q hq => ?_
          obtain ⟨rfl, hother⟩ := hfirst later hlater
          exact disjoint_places hrows hother hp hq
        exact hkept.trans (cell?_fill hrows hp h)
      · obtain ⟨rfl, hother⟩ := hfirst pair hlater
        refine ih hrest hlater ?_
        rw [cell?_fill_of_not_mem fun q hq => (disjoint_places hrows hother hq hp).symm, h]

/-- Drawing keeps a character out that is neither there nor shown at one of the pairs. -/
theorem charAt?_drawnOver_ne {c : Char} (htemplate : ∀ i j, charAt? template i j ≠ some c)
    (hshown : ∀ pair ∈ pairs, ∀ key ∈ rows.flatMap (·.keys),
      shown layout key pair.lower ≠ c ∧ shown layout key pair.upper ≠ c) :
    ∀ i j, charAt? (drawnOver layout rows template pairs) i j ≠ some c := by
  induction pairs generalizing template with
  | nil => exact htemplate
  | cons pair rest ih =>
      obtain ⟨hpair, hrest⟩ := List.forall_mem_cons.mp hshown
      exact ih (charAt?_fill_ne htemplate hpair) hrest

end KeyboardLayout.Drawing
