import KeyboardLayout.Proofs.InertLines
import KeyboardLayout.Proofs.Redrawing

/-!
# The lines of the previews

No two cells of a drawing touch, whatever pairs are drawn, so that one of two neighbours is always
a character of the board (`fixed_or_fixed`). The characters of the built-in boards take no part in
a marker or a token; so the lines of a preview are loose, whatever its keys show
(`Layout.loose_drawing`). A line feed can only come from a key (`feed_mem_drawnOver_iff`), and then
a character of the board follows it (`exists_behind_feed`).
-/

namespace KeyboardLayout

open Text

namespace Drawing

variable {layout : Layout} {rows : List Row} {template : List Text}

/-- No key stands there. -/
def Fixed (rows : List Row) (line column : Nat) : Prop :=
  ∀ pair, ∀ p ∈ places rows pair, ¬p.2.Covers line column

/-- All cells of a row are an even number of columns apart, so that no two characters of cells are
neighbours. -/
theorem fixed_or_fixed (rows : List Row) (line column : Nat) :
    Fixed rows line column ∨ Fixed rows line (column + 1) := by
  by_contra h
  simp only [Fixed, not_or, not_forall, not_not] at h
  obtain ⟨⟨pair, p, hp, hcolumn, hline⟩, ⟨pair', q, hq, hcolumn', hline'⟩⟩ := h
  obtain ⟨row, k, hrow, -, hk⟩ := mem_places.mp hp
  obtain ⟨row', k', hrow', -, hk'⟩ := mem_places.mp hq
  have hsame : p.2.row = q.2.row := by
    simp only [Row.shiftLine, Row.baseLine] at hline hline'
    omega
  rw [hsame, hrow'] at hrow
  obtain rfl := Option.some.inj hrow
  have heven := row'.column_mod_two pair k
  have heven' := row'.column_mod_two pair' k'
  omega

theorem charAt?_drawnOver {line column : Nat} (h : Fixed rows line column) (pairs : List Pair) :
    charAt? (drawnOver layout rows template pairs) line column =
      charAt? template line column := by
  induction pairs generalizing template with
  | nil => rfl
  | cons pair rest ih => exact ih.trans (charAt?_fill_of_not_covers (h pair))

/-- No character of the board is part of a marker, of the start of a token or of a comment, or of
the end of a line. -/
def Ordinary (template : List Text) : Prop :=
  ∀ line ∈ template, ∀ c ∈ line, c ∉ [':', '$', '\x7b', '/', '\n', '\r']

instance (template : List Text) : Decidable (Ordinary template) :=
  have (line : Text) : Decidable (∀ c ∈ line, c ∉ [':', '$', '\x7b', '/', '\n', '\r']) :=
    List.decidableBAll _ line
  List.decidableBAll _ template

theorem Ordinary.of_charAt? (h : Ordinary template) {i j : Nat} {c : Char}
    (hc : charAt? template i j = some c) : c ∉ [':', '$', '\x7b', '/', '\n', '\r'] := by
  obtain ⟨line, hline, hmem⟩ := mem_iff_charAt?.mpr ⟨i, j, hc⟩
  exact h line hline c hmem

theorem charAt?_of_getElem? {lines : List Text} {t : Text} {i : Nat} (h : lines[i]? = some t)
    (j : Nat) : charAt? lines i j = t[j]? := by
  rw [charAt?, h, Option.bind_some]

/-- The lines of a drawing on an ordinary board are loose. -/
theorem loose_drawnOver (h : Ordinary template) (pairs : List Pair) :
    ∀ line ∈ drawnOver layout rows template pairs, Loose line := by
  intro drawn hdrawn
  obtain ⟨i, hi⟩ := List.mem_iff_getElem?.mp hdrawn
  have hat := charAt?_of_getElem? hi
  refine List.isChain_iff_getElem.mpr fun j hj => ?_
  rcases fixed_or_fixed rows i j with hfixed | hfixed
  · have hc := h.of_charAt? ((charAt?_drawnOver hfixed pairs).symm.trans
      ((hat j).trans (List.getElem?_eq_getElem (Nat.lt_of_succ_lt hj))))
    exact ⟨fun heq => hc (by simp [heq.1]), fun heq => hc (by simp [heq.1])⟩
  · have hc := h.of_charAt? ((charAt?_drawnOver hfixed pairs).symm.trans
      ((hat (j + 1)).trans (List.getElem?_eq_getElem hj)))
    exact ⟨fun heq => hc (by simp [heq.2]), fun heq => hc (by simp [heq.2])⟩

/-! ## Line feeds -/

section

variable {board : Geometry} (hboard : board.Drawable) (hordinary : Ordinary board.template)
  {pairs : List Pair}
include hboard hordinary

/-- A drawing has a line feed exactly if a key of the board shows one at one of the pairs. -/
theorem feed_mem_drawnOver_iff
    (hpairs : pairs.Pairwise fun earlier later => earlier = .base ∧ later ≠ .base) :
    (∃ line ∈ drawnOver layout board.rows board.template pairs, '\n' ∈ line) ↔
      ∃ pair ∈ pairs, ∃ key ∈ board.keys,
        shown layout key pair.lower = '\n' ∨ shown layout key pair.upper = '\n' := by
  constructor
  · intro hfeed
    by_contra hnone
    simp only [not_exists, not_and, not_or] at hnone
    obtain ⟨i, j, hchar⟩ := mem_iff_charAt?.mp hfeed
    have htemplate : ∀ i j, charAt? board.template i j ≠ some '\n' := fun i j hchar =>
      hordinary.of_charAt? hchar (by decide)
    exact charAt?_drawnOver_ne htemplate hnone i j hchar
  · rintro ⟨pair, hpair, key, hkey, hshown⟩
    have hplaced : key ∈ (places board.rows pair).map (·.1) := by
      rw [map_fst_places]
      exact hkey
    obtain ⟨p, hp, rfl⟩ := List.mem_map.mp hplaced
    have hcell : p.2.cell? (drawnOver layout board.rows board.template pairs) =
        some (Cell.draw pair (shownPair layout pair p.1) Cell.empty) :=
      cell?_drawnOver (fits_of_nodup hboard.nodup_keys) hpairs hpair hp
        (hboard.blankCells pair (mem_allPairs pair) p hp)
    obtain ⟨hlower, hupper⟩ := Place.cell?_eq_some_iff.mp hcell
    rw [mem_iff_charAt?]
    rcases Cell.feed_draw pair (s := shownPair layout pair p.1) hshown Cell.empty with
      hfeed | hfeed
    · exact ⟨_, _, hlower.trans (congrArg some hfeed)⟩
    · exact ⟨_, _, hupper.trans (congrArg some hfeed)⟩

/-- Behind a line feed in a drawing there is a character of the board. -/
theorem exists_behind_feed {s t : Text}
    (h : s ++ '\n' :: t ∈ drawnOver layout board.rows board.template pairs) :
    ∃ c rest, t = c :: rest ∧ c ∉ ['/', '\n', '\r'] := by
  obtain ⟨i, hi⟩ := List.mem_iff_getElem?.mp h
  have hat := charAt?_of_getElem? hi
  have hsame : ∀ {j}, Fixed board.rows i j →
      charAt? board.template i j = (s ++ '\n' :: t)[j]? := fun hfixed =>
    (charAt?_drawnOver hfixed pairs).symm.trans (hat _)
  have hkey : ¬Fixed board.rows i s.length := fun hfixed =>
    hordinary.of_charAt? ((hsame hfixed).trans (by simp)) (by decide : '\n' ∈ _)
  cases t with
  | nil =>
      -- the last column belongs to the board
      refine absurd ?_ hkey
      have hlengths := congrArg (·[i]?) (length_drawnOver layout board.rows board.template pairs)
      simp only [List.getElem?_map, hi, Option.map_some] at hlengths
      obtain ⟨old, hold, hlength⟩ := Option.map_eq_some_iff.mp hlengths.symm
      obtain ⟨-, -, -, hcovers⟩ := hboard.closedLines.of_getElem? hold
      simpa [Fixed, hlength] using hcovers
  | cons c rest =>
      have hnext := (fixed_or_fixed board.rows i s.length).resolve_left hkey
      have hc := hordinary.of_charAt? ((hsame hnext).trans (by simp) : _ = some c)
      refine ⟨c, rest, rfl, fun hmem => hc ?_⟩
      revert hmem
      simp only [List.mem_cons]
      tauto

end

end Drawing

namespace Registry

theorem ordinary_of_template {geometry : Geometry} {template : List Text}
    (h : geometry.template = template) (htemplate : Drawing.Ordinary template) :
    Drawing.Ordinary geometry.template := h ▸ htemplate

theorem ordinary_ansi : Drawing.Ordinary Builtin.ansi.template := by
  apply ordinary_of_template
  · unfold Builtin.ansi
    repeat (apply cons_toList_eq rfl)
    rfl
  · decide

theorem ordinary_iso : Drawing.Ordinary Builtin.iso.template := by
  apply ordinary_of_template
  · unfold Builtin.iso
    repeat (apply cons_toList_eq rfl)
    rfl
  · decide

theorem ordinary_ergo : Drawing.Ordinary Builtin.ergo.template := by
  apply ordinary_of_template
  · unfold Builtin.ergo
    repeat (apply cons_toList_eq rfl)
    rfl
  · decide

theorem ordinary_of_builtin {name : Text} {geometry : Geometry}
    (h : builtin.geometry name = .ok geometry) : Drawing.Ordinary geometry.template := by
  rcases builtin_geometry_cases h with rfl | rfl | rfl
  · exact ordinary_ansi
  · exact ordinary_iso
  · exact ordinary_ergo

end Registry

namespace Layout

variable {layout : Layout} (h : layout.registry = Registry.builtin) {name : Text}
  {board : Geometry} (hboard : Registry.builtin.geometry name = .ok board)
include h hboard

/-- Every layout can be drawn on every built-in board. -/
theorem drawing_eq (pairs : List Pair) :
    Drawing.ofLayout layout pairs name =
      .ok (Drawing.drawnOver layout board.rows board.template pairs) := by
  rw [Drawing.ofLayout, h, hboard]
  rfl

/-- The lines of a drawing on a built-in board are loose. -/
theorem loose_drawing (pairs : List Pair) :
    ∃ lines, Drawing.ofLayout layout pairs name = .ok lines ∧ ∀ line ∈ lines, Loose line :=
  ⟨_, drawing_eq h hboard pairs,
    Drawing.loose_drawnOver (Registry.ordinary_of_builtin hboard) pairs⟩

end Layout

end KeyboardLayout
