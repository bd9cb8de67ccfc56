import KeyboardLayout.Layout.Source
import KeyboardLayout.Proofs.DrawnText
import KeyboardLayout.Proofs.Filling
import KeyboardLayout.Registry.Builtin

/-!
# Boards that can be drawn on

A board is `Drawable` if its template leaves the cell of every key blank and its lines can stand in
a text: each is free of line feeds and ends with a character that no key covers. Filling keeps the
second part (`ClosedLines.fill`), so that a drawing on such a board comes back from its text
(`ClosedLines.drawnLines_ofLines`). The built-in boards are all drawable (`drawable_of_builtin`).
-/

namespace KeyboardLayout

namespace Drawing

/-- All pairs of levels. -/
def allPairs : List Pair :=
  [.base, .deadKey, .altGr]

theorem mem_allPairs (pair : Pair) : pair ∈ allPairs := by
  cases pair <;> decide

instance (place : Place) (line column : Nat) : Decidable (place.Covers line column) :=
  inferInstanceAs (Decidable (_ ∧ _))

/-- The template has an empty cell for every key of every pair. -/
def BlankCells (rows : List Row) (template : List Text) : Prop :=
  ∀ pair ∈ allPairs, ∀ p ∈ places rows pair, p.2.cell? template = some Cell.empty

/-- Every line can stand in a text and ends outside of the cells. -/
def ClosedLines (rows : List Row) (lines : List Text) : Prop :=
  ∀ item ∈ lines.zipIdx, '\n' ∉ item.1 ∧ item.1 ≠ [] ∧ item.1.getLast? ≠ some '\r'
    ∧ ∀ pair ∈ allPairs, ∀ p ∈ places rows pair, ¬p.2.Covers item.2 (item.1.length - 1)

instance (rows : List Row) (template : List Text) : Decidable (BlankCells rows template) :=
  inferInstanceAs (Decidable (∀ pair ∈ allPairs, ∀ p ∈ places rows pair, _))

instance (rows : List Row) (lines : List Text) : Decidable (ClosedLines rows lines) :=
  inferInstanceAs (Decidable (∀ item ∈ lines.zipIdx, _ ∧ _ ∧ _ ∧ _))

/-! ## Filled drawings as text -/

variable {layout : Layout} {rows : List Row} {lines : List Text}

theorem ClosedLines.of_getElem? (h : ClosedLines rows lines) {i : Nat} {line : Text}
    (hi : lines[i]? = some line) :
    '\n' ∉ line ∧ line ≠ [] ∧ line.getLast? ≠ some '\r'
      ∧ ∀ pair, ∀ p ∈ places rows pair, ¬p.2.Covers i (line.length - 1) := by
  obtain ⟨hfeed, hne, hlast, hcovers⟩ :=
    h (line, i) (List.mk_mem_zipIdx_iff_getElem?.mpr hi)
  exact ⟨hfeed, hne, hlast, fun pair => hcovers pair (mem_allPairs pair)⟩

/-- Filling keeps the lines fit for a text. -/
theorem ClosedLines.fill (h : ClosedLines rows lines)
    (hshown : ∀ key level, shown layout key level ≠ '\n') (pair : Pair) :
    ClosedLines rows (Drawing.fill layout lines rows pair) := by
  rintro ⟨line, i⟩ hitem
  have hi := List.mk_mem_zipIdx_iff_getElem?.mp hitem
  have hlength : (lines.map List.length)[i]? = some line.length := by
    rw [← length_fill layout lines rows pair, List.getElem?_map, hi]
    rfl
  rw [List.getElem?_map, Option.map_eq_some_iff] at hlength
  obtain ⟨old, hold, hlen⟩ := hlength
  obtain ⟨hfeed, hne, hlast, hcovers⟩ := h.of_getElem? hold
  rw [hlen] at hcovers
  have hsame : line.getLast? = old.getLast? := by
    have hend : charAt? (Drawing.fill layout lines rows pair) i (List.length line - 1) =
        charAt? lines i (List.length line - 1) := charAt?_fill_of_not_covers (hcovers pair)
    simpa [charAt?, hi, hold, List.getLast?_eq_getElem?, hlen] using hend
  refine ⟨fun hmem => ?_, ?_, hsame ▸ hlast, fun pair _ => hcovers pair⟩
  · have hnone : ∀ i j, charAt? lines i j ≠ some '\n' := by
      intro i j hc
      obtain ⟨l, hl, hmem⟩ := mem_iff_charAt?.mpr ⟨i, j, hc⟩
      obtain ⟨k, hk⟩ := List.mem_iff_getElem?.mp hl
      exact (h.of_getElem? hk).1 hmem
    obtain ⟨j, hj⟩ := List.mem_iff_getElem?.mp hmem
    have hchar : charAt? (Drawing.fill layout lines rows pair) i j = some '\n' := by
      rw [charAt?, hi]
      exact hj
    exact charAt?_fill_ne hnone (fun key _ => ⟨hshown key _, hshown key _⟩) i j hchar
  · rw [← List.length_pos_iff, ← hlen, List.length_pos_iff]
    exact hne

/-- Such lines come back from their text. -/
theorem ClosedLines.drawnLines_ofLines (h : ClosedLines rows lines) :
    Layout.Source.drawnLines (Text.ofLines lines []) = lines := by
  have hline : ∀ line ∈ lines, '\n' ∉ line ∧ line ≠ [] ∧ line.getLast? ≠ some '\r' := by
    intro line hl
    obtain ⟨i, hi⟩ := List.mem_iff_getElem?.mp hl
    obtain ⟨hfeed, hne, hlast, -⟩ := h.of_getElem? hi
    exact ⟨hfeed, hne, hlast⟩
  refine Text.lines_mergeMarks_ofLines (fun line hl => (hline line hl).1)
    (fun line hl => (hline line hl).2.2) fun hlast => ?_
  exact (hline [] (List.mem_of_getLast? hlast)).2.1 rfl

end Drawing

/-- A board whose drawing takes every layout. -/
structure Geometry.Drawable (geometry : Geometry) : Prop where
  nodup_keys : geometry.keys.Nodup
  blankCells : Drawing.BlankCells geometry.rows geometry.template
  closedLines : Drawing.ClosedLines geometry.rows geometry.template

/-! ## The built-in boards -/

namespace Registry

/-- A line given by a literal has the characters of the literal. -/
theorem cons_toList_eq {s : String} {line : Text} {rest rest' : List Text}
    (hs : s = String.ofList line) (hrest : rest = rest') : s.toList :: rest = line :: rest' := by
  rw [hs, String.toList_ofList, hrest]

theorem drawable_of_template {geometry : Geometry} {template : List Text}
    (h : geometry.template = template) (hkeys : geometry.keys.Nodup)
    (hcells : Drawing.BlankCells geometry.rows template)
    (hlines : Drawing.ClosedLines geometry.rows template) : geometry.Drawable := by
  subst h
  exact ⟨hkeys, hcells, hlines⟩

theorem drawable_ansi : Builtin.ansi.Drawable := by
  apply drawable_of_template
  · unfold Builtin.ansi
    repeat (apply cons_toList_eq rfl)
    rfl
  · decide
  · decide
  · decide

theorem drawable_iso : Builtin.iso.Drawable := by
  apply drawable_of_template
  · unfold Builtin.iso
    repeat (apply cons_toList_eq rfl)
    rfl
  · decide
  · decide
  · decide

theorem drawable_ergo : Builtin.ergo.Drawable := by
  apply drawable_of_template
  · unfold Builtin.ergo
    repeat (apply cons_toList_eq rfl)
    rfl
  · decide
  · decide
  · decide

theorem builtin_geometry_cases {name : Text} {geometry : Geometry}
    (h : builtin.geometry name = .ok geometry) :
    geometry = Builtin.ansi ∨ geometry = Builtin.iso ∨ geometry = Builtin.ergo := by
  unfold Registry.geometry at h
  split at h
  · rename_i found hfound
    obtain rfl := Except.ok.inj h
    have hmem : found ∈ [Builtin.ansi, Builtin.iso, Builtin.ergo] :=
      List.mem_of_find?_eq_some hfound
    simpa using hmem
  · cases h

/-- Every built-in board is drawable and is found again by its own name. -/
theorem drawable_of_builtin {name : Text} {geometry : Geometry}
    (h : builtin.geometry name = .ok geometry) :
    geometry.Drawable ∧ builtin.geometry geometry.name = .ok geometry := by
  rcases builtin_geometry_cases h with rfl | rfl | rfl
  · exact ⟨drawable_ansi, rfl⟩
  · exact ⟨drawable_iso, rfl⟩
  · exact ⟨drawable_ergo, rfl⟩

end Registry

end KeyboardLayout
