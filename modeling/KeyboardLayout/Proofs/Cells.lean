import KeyboardLayout.Drawing
import KeyboardLayout.Proofs.Partners

/-!
# Cells

What the two characters of a cell stand for, and what a key with two symbols is drawn as. The
symbols of a cell satisfy `Cell.Derived`: nothing is left out that could be derived, and in the
base pair nothing stands above a blank. For such symbols drawing and reading are inverse with one
exception (`symbols_draw_iff`): in the base pair the lower symbol is left out when the upper one is
its shift partner, and the way back takes the base partner instead.
-/

namespace KeyboardLayout.Drawing

/-- The cell of a key that produces nothing. -/
def Cell.empty : Cell := ⟨blank, blank⟩

/-- The symbols leave nothing to be derived. -/
structure Cell.Derived (pair : Pair) (s : Cell) : Prop where
  shift_derived : s.upper = blank → shiftPartner s.lower = blank
  base_derived : pair = .base → s.lower = blank → s.upper = blank

theorem Cell.derived_empty (pair : Pair) : Cell.empty.Derived pair :=
  ⟨fun _ => shiftPartner_blank, fun _ _ => rfl⟩

theorem Cell.derived_symbols (pair : Pair) (cell : Cell) :
    (Cell.symbols pair cell).Derived pair := by
  unfold Cell.symbols
  split
  · rename_i h
    refine ⟨fun hu => ?_, fun _ hl => basePartner_eq_blank_iff.mp hl⟩
    rw [basePartner_eq_blank_iff.mpr hu, shiftPartner_blank]
  · rename_i h
    split
    · refine ⟨id, fun _ hl => ?_⟩
      rw [hl, shiftPartner_blank]
    · rename_i hu
      exact ⟨fun hu' => absurd hu' hu, fun hp hl => absurd ⟨hp, hl⟩ h⟩

theorem Cell.symbols_ne_feed (pair : Pair) {cell : Cell} (hl : cell.lower ≠ '\n')
    (hu : cell.upper ≠ '\n') :
    (Cell.symbols pair cell).lower ≠ '\n' ∧ (Cell.symbols pair cell).upper ≠ '\n' := by
  unfold Cell.symbols
  split
  · exact ⟨basePartner_ne_feed hu, hu⟩
  · split
    · exact ⟨hl, shiftPartner_ne_feed⟩
    · exact ⟨hl, hu⟩

/-- A line feed among the symbols is drawn: no other symbol can be derived from it or leads to
it. -/
theorem Cell.feed_draw (pair : Pair) {s : Cell} (h : s.lower = '\n' ∨ s.upper = '\n')
    (drawn : Cell) :
    (Cell.draw pair s drawn).lower = '\n' ∨ (Cell.draw pair s drawn).upper = '\n' := by
  have hpartner : shiftPartner '\n' = blank := by decide
  rcases h with hlower | hupper
  · left
    unfold Cell.draw
    grind
  · right
    have hderivable : shiftPartner s.lower ≠ s.upper := hupper ▸ shiftPartner_ne_feed
    unfold Cell.draw
    grind

/-- The symbols that come back are those drawn, but for a lower symbol that was left out. -/
theorem Cell.symbols_draw {pair : Pair} {s : Cell} (h : s.Derived pair) :
    Cell.symbols pair (Cell.draw pair s Cell.empty) =
      if pair = .base ∧ s.upper ≠ blank ∧ shiftPartner s.lower = s.upper then
        ⟨basePartner s.upper, s.upper⟩
      else s := by
  obtain ⟨lower, upper⟩ := s
  obtain ⟨hshift, hbase⟩ := h
  simp only at hshift hbase
  by_cases hp : pair = .base
  · subst hp
    by_cases hu : upper = blank
    · by_cases hl : lower = blank
      · simp [Cell.draw, Cell.symbols, hu, hl, basePartner_eq_blank_iff.mpr rfl]
      · simp [Cell.draw, Cell.symbols, hu, hl, hshift hu]
    · have hl : lower ≠ blank := fun hl => hu (hbase rfl hl)
      by_cases hd : shiftPartner lower = upper
      · simp [Cell.draw, Cell.symbols, Cell.empty, hu, hd]
      · simp [Cell.draw, Cell.symbols, hu, hd, hl]
  · by_cases hd : shiftPartner lower = upper
    · simp [Cell.draw, Cell.symbols, Cell.empty, hp, hd]
    · have hu : upper ≠ blank := fun hu => hd ((hshift hu).trans hu.symm)
      simp [Cell.draw, Cell.symbols, hp, hd, hu]

/-- Drawing and reading are inverse on a cell unless the base pair leaves out a symbol that is not
the base partner of its own shift partner. -/
theorem Cell.symbols_draw_iff {pair : Pair} {s : Cell} (h : s.Derived pair) :
    Cell.symbols pair (Cell.draw pair s Cell.empty) = s ↔
      (pair = .base → s.upper ≠ blank → shiftPartner s.lower = s.upper →
        basePartner s.upper = s.lower) := by
  rw [Cell.symbols_draw h]
  split
  · rename_i hleft
    obtain ⟨hp, hu, hd⟩ := hleft
    refine ⟨fun heq _ _ _ => congrArg Cell.lower heq, fun hb => ?_⟩
    rw [hb hp hu hd]
  · rename_i hleft
    exact ⟨fun _ hp hu hd => absurd ⟨hp, hu, hd⟩ hleft, fun _ => rfl⟩

end KeyboardLayout.Drawing
