import KeyboardLayout.Proofs.Boards
import KeyboardLayout.Proofs.Sources

/-!
# Drawing a layout and reading it back

A layout that was drawn on a built-in board is drawn again, turned into text and read back. Every
place shows the cell that its symbols are drawn as, so that the way back reads the same slots with
the symbols of these cells (`readAll_drawings`). These are the symbols of the layout unless a base
symbol was left out that is not the base partner of its own shift partner, and exactly then the
way back ends elsewhere (`redrawn_eq_ok_iff`).
-/

namespace KeyboardLayout.Layout

open Drawing

/-- The layout drawn, turned into text and read back: the base block shows the base and the
dead-key pair, the other block the AltGr pair. -/
def redrawn (layout : Layout) : Except LayoutError Layout := do
  let base ← ofLayout layout [.base, .deadKey] layout.geometry.name
  let altGr ← ofLayout layout [.altGr] layout.geometry.name
  let empty ← new layout.metadata layout.geometry.name layout.registry
  let baseLines := Source.drawnLines (Text.ofLines base [])
  let altGrLines := Source.drawnLines (Text.ofLines altGr [])
  let reading := readAll (fun l block => read l block.1 layout.geometry.rows block.2) empty
    [(baseLines, .base), (baseLines, .deadKey), (altGrLines, .altGr)]
  match reading.fault? with
  | some fault => throw fault
  | none => return reading.layout.complete

def baseDrawing (layout : Layout) : List Text :=
  fill layout (fill layout layout.geometry.template layout.geometry.rows .base)
    layout.geometry.rows .deadKey

def altGrDrawing (layout : Layout) : List Text :=
  fill layout layout.geometry.template layout.geometry.rows .altGr

/-- The drawing that shows a pair. -/
def drawing (layout : Layout) : Pair → List Text
  | .base | .deadKey => layout.baseDrawing
  | .altGr => layout.altGrDrawing

/-- The finding that the drawing of a layout shows for a slot. -/
def drawnFinding (layout : Layout) (slot : Pair × Key) : Finding :=
  ⟨slot.1, slot.2,
    Cell.symbols slot.1 (Cell.draw slot.1 (shownPair layout slot.1 slot.2) Cell.empty)⟩

variable {layout : Layout}

/-! ## The drawings -/

/-- Every place shows the cell that the symbols of its key are drawn as: the dead-key pair is drawn
between the cells of the base pair. -/
theorem cell?_drawing (hboard : layout.geometry.Drawable) {pair : Pair} {p : Key × Place}
    (hp : p ∈ places layout.geometry.rows pair) :
    p.2.cell? (layout.drawing pair) =
      some (Cell.draw pair (shownPair layout pair p.1) Cell.empty) := by
  have hblank := hboard.blankCells pair (mem_allPairs pair) p hp
  have hblock : ∀ pairs : List Pair, pair ∈ pairs →
      (pairs.Pairwise fun earlier later => earlier = .base ∧ later ≠ .base) →
      p.2.cell? (drawnOver layout layout.geometry.rows layout.geometry.template pairs) =
        some (Cell.draw pair (shownPair layout pair p.1) Cell.empty) :=
    fun pairs hpair hpairs =>
      cell?_drawnOver (fits_of_nodup hboard.nodup_keys) hpairs hpair hp hblank
  cases pair with
  | base | deadKey => exact hblock [.base, .deadKey] (by decide) (by decide)
  | altGr => exact hblock [.altGr] (by decide) (by decide)

theorem closedLines_drawing (hboard : layout.geometry.Drawable)
    (hshown : ∀ key level, shown layout key level ≠ '\n') (pair : Pair) :
    ClosedLines layout.geometry.rows (layout.drawing pair) := by
  cases pair with
  | base | deadKey => exact (hboard.closedLines.fill hshown .base).fill hshown .deadKey
  | altGr => exact hboard.closedLines.fill hshown .altGr

/-- Where every place shows the cell that its key is drawn as, reading is reading the findings
that the drawing of the layout shows. -/
theorem read_eq_drawnFindings {lines : List Text} {rows : List Row} {pair : Pair}
    (h : ∀ p ∈ places rows pair,
      p.2.cell? lines = some (Cell.draw pair (shownPair layout pair p.1) Cell.empty))
    (start : Layout) :
    read start lines rows pair =
      readAll readFinding start
        ((pairSlots (rows.flatMap (·.keys)) pair).map layout.drawnFinding) := by
  rw [read_eq_readAll h, pairSlots, List.map_map, ← map_fst_places _ pair, List.map_map,
    readAll_map]
  rfl

theorem read_drawing (hboard : layout.geometry.Drawable) (pair : Pair) (start : Layout) :
    read start (layout.drawing pair) layout.geometry.rows pair =
      readAll readFinding start
        ((pairSlots layout.geometry.keys pair).map layout.drawnFinding) :=
  read_eq_drawnFindings (fun _ hp => cell?_drawing hboard hp) start

theorem readAll_drawings (hboard : layout.geometry.Drawable) (start : Layout) :
    readAll (fun l block => read l block.1 layout.geometry.rows block.2) start
        [(layout.drawing .base, .base), (layout.drawing .base, .deadKey),
          (layout.drawing .altGr, .altGr)] =
      readAll readFinding start (layout.geometry.slots.map layout.drawnFinding) := by
  have hblocks : [(layout.drawing .base, Pair.base), (layout.drawing .base, .deadKey),
      (layout.drawing .altGr, .altGr)] =
      [Pair.base, .deadKey, .altGr].map fun pair => (layout.drawing pair, pair) := rfl
  rw [hblocks, readAll_map, Geometry.slots, List.map_flatMap, readAll_flatMap]
  exact readAll_congr fun l pair _ => read_drawing hboard pair l

/-- What comes back from the text of the drawings. -/
theorem redrawn_eq (hboard : layout.geometry.Drawable)
    (hfound : layout.registry.geometry layout.geometry.name = .ok layout.geometry)
    (hshown : ∀ key level, shown layout key level ≠ '\n') {reading : Reading}
    (hreading : reading =
      readAll readFinding (empty layout.metadata layout.geometry layout.registry)
        (layout.geometry.slots.map layout.drawnFinding)) :
    layout.redrawn =
      match reading.fault? with
      | some fault => .error fault
      | none => .ok reading.layout.complete := by
  have hbase : ofLayout layout [.base, .deadKey] layout.geometry.name =
      .ok (layout.drawing .base) := by rw [ofLayout, hfound]; rfl
  have haltGr : ofLayout layout [.altGr] layout.geometry.name =
      .ok (layout.drawing .altGr) := by rw [ofLayout, hfound]; rfl
  have hnew : new layout.metadata layout.geometry.name layout.registry =
      .ok (empty layout.metadata layout.geometry layout.registry) := by rw [new, hfound]; rfl
  have hblocks := readAll_drawings hboard (empty layout.metadata layout.geometry layout.registry)
  rw [← hreading] at hblocks
  simp only [redrawn, hbase, haltGr, hnew, bind, Except.bind,
    (closedLines_drawing hboard hshown .base).drawnLines_ofLines,
    (closedLines_drawing hboard hshown .altGr).drawnLines_ofLines]
  rw [hblocks]
  rfl

/-! ## Drawn layouts -/

/-- No key of a drawn layout shows a line feed. -/
theorem Drawn.shown_ne_feed {registry : Registry} (h : layout.Drawn registry)
    (hkeys : layout.geometry.keys.Nodup) (key : Key) (level : Level) :
    shown layout key level ≠ '\n' := by
  have hlevel : ∀ pair, (shownPair layout pair key).lower ≠ '\n'
      ∧ (shownPair layout pair key).upper ≠ '\n' := by
    intro pair
    by_cases hkey : key ∈ layout.geometry.keys
    · have := (h.readAll_findingOf hkeys).1 (pair, key) (Geometry.mem_slots.mpr hkey)
      exact ⟨this.lower_ne_feed, this.upper_ne_feed⟩
    · rw [h.shownPair_of_not_mem hkey]
      decide
  cases level with
  | base => exact (hlevel .base).1
  | shift => exact (hlevel .base).2
  | deadKey => exact (hlevel .deadKey).1
  | deadKeyShift => exact (hlevel .deadKey).2
  | altGr => exact (hlevel .altGr).1
  | altGrShift => exact (hlevel .altGr).2

/-- A base symbol that its drawing leaves out is not found again. -/
def Lost (layout : Layout) (key : Key) : Prop :=
  ∃ b, layout.symbol key .base = some b ∧ layout.symbol key .shift = some (shiftPartner b)
    ∧ basePartner (shiftPartner b) ≠ b

theorem symbol_eq_of_shown {key : Key} {level : Level} (h : shown layout key level ≠ blank) :
    layout.symbol key level = some (shown layout key level) := by
  unfold shown at h ⊢
  cases hs : layout.symbol key level with
  | none => simp [hs] at h
  | some c => rfl

/-- The finding drawn for a slot is the finding of the layout, but for the base pair of a key whose
base symbol is lost. -/
theorem drawnFinding_eq_iff (hblank : ∀ key level, layout.symbol key level ≠ some blank)
    {pair : Pair} {key : Key} (hderived : (shownPair layout pair key).Derived pair) :
    layout.drawnFinding (pair, key) = findingOf layout (pair, key) ↔
      (pair = .base → ¬layout.Lost key) := by
  simp only [drawnFinding, findingOf, Finding.mk.injEq, true_and, Cell.symbols_draw_iff hderived]
  constructor
  · rintro hback rfl ⟨b, hb, hs, hne⟩
    have hupper : shiftPartner b ≠ blank := fun heq => hblank key .shift (heq ▸ hs)
    have hpair : shownPair layout .base key = ⟨b, shiftPartner b⟩ := by
      simp [shownPair, shown, Pair.lower, Pair.upper, hb, hs]
    rw [hpair] at hback
    exact hne (hback rfl hupper rfl)
  · rintro hkept rfl hupper hpartner
    have hlower : shown layout key .base ≠ blank :=
      fun hblank => hupper (hderived.base_derived rfl hblank)
    refine Decidable.byContradiction fun hne => hkept rfl ⟨_, symbol_eq_of_shown hlower, ?_, ?_⟩
    · exact (symbol_eq_of_shown hupper).trans (congrArg some hpartner.symm)
    · exact hpartner.symm ▸ hne

theorem Drawn.drawnFinding_eq_iff {registry : Registry} (h : layout.Drawn registry)
    (hkeys : layout.geometry.keys.Nodup) {slot : Pair × Key}
    (hslot : slot ∈ layout.geometry.slots) :
    layout.drawnFinding slot = findingOf layout slot ↔ (slot.1 = .base → ¬layout.Lost slot.2) :=
  Layout.drawnFinding_eq_iff h.orderly.symbol_ne_blank
    ((h.readAll_findingOf hkeys).1 _ hslot).derived

theorem Drawn.not_lost_of_not_mem {registry : Registry} (h : layout.Drawn registry) {key : Key}
    (hkey : key ∉ layout.geometry.keys) : ¬layout.Lost key := by
  rintro ⟨b, hb, -, -⟩
  have hempty : shownPair layout .base key = Cell.empty := h.shownPair_of_not_mem hkey
  have hblank := congrArg Cell.lower hempty
  simp only [shownPair, shown, Pair.lower, hb, Option.getD_some, Cell.empty] at hblank
  exact h.orderly.symbol_ne_blank key .base (hblank ▸ hb)

theorem shownPair_congr {other : Layout} (h : other.layers = layout.layers) (pair : Pair)
    (key : Key) : shownPair other pair key = shownPair layout pair key := by
  simp [shownPair, shown, symbol, layer, h]

/-- The layout comes back: the same layers and the same dead keys, in the same order and with the
same tables. -/
def ComesBack (layout : Layout) : Prop :=
  ∃ back, layout.redrawn = .ok back ∧ back.layers = layout.layers
    ∧ back.deadKeys = layout.deadKeys

/-- A drawn layout comes back exactly if no base symbol is lost. -/
theorem Drawn.comesBack_complete_iff (h : layout.Drawn Registry.builtin) :
    layout.complete.ComesBack ↔ ∀ key, ¬layout.Lost key := by
  obtain ⟨name, hname⟩ := h.board
  obtain ⟨hboard, hfound⟩ : layout.complete.geometry.Drawable ∧ _ :=
    Registry.drawable_of_builtin hname
  have hkeys : layout.geometry.keys.Nodup := hboard.nodup_keys
  obtain ⟨-, hself⟩ := h.readAll_findingOf hkeys
  have hredrawn := redrawn_eq hboard
    (by rw [registry_complete, h.registry_eq]; exact hfound) (h.shown_ne_feed hkeys) rfl
  simp only [metadata_complete, geometry_complete, registry_complete, h.registry_eq] at hredrawn
  generalize hreading : readAll readFinding (empty layout.metadata layout.geometry Registry.builtin)
    (layout.geometry.slots.map layout.complete.drawnFinding) = reading at hredrawn
  constructor
  · rintro ⟨back, hback, hlayers, -⟩ key
    by_cases hkey : key ∈ layout.geometry.keys
    · have hslot : (Pair.base, key) ∈ layout.geometry.slots := Geometry.mem_slots.mpr hkey
      refine (h.drawnFinding_eq_iff hkeys hslot).mp ?_ rfl
      rw [hredrawn] at hback
      split at hback
      · cases hback
      · rename_i hok
        obtain rfl := Except.ok.inj hback
        have hslots : (layout.geometry.slots.map layout.complete.drawnFinding).map Finding.slot =
            layout.geometry.slots := by
          rw [List.map_map]
          exact List.map_id'' (fun _ => rfl) _
        have hread := shownPair_of_mem (hslots.symm ▸ Geometry.nodup_slots hkeys)
          (hreading ▸ hok) (fun finding _ => shownPair_empty ..) (List.mem_map_of_mem hslot)
        rw [hreading, ← shownPair_complete, shownPair_congr hlayers] at hread
        exact congrArg (Finding.mk .base key) hread.symm
    · exact h.not_lost_of_not_mem hkey
  · intro hkept
    have hfindings : layout.geometry.slots.map layout.complete.drawnFinding =
        layout.geometry.slots.map (findingOf layout) :=
      List.map_congr_left fun slot hslot =>
        (h.drawnFinding_eq_iff hkeys hslot).mpr fun _ => hkept slot.2
    rw [← hreading, hfindings, hself] at hredrawn
    exact ⟨layout.complete, hredrawn, rfl, rfl⟩

/-! ## Layouts from texts -/

/-- **A layout from a text comes back exactly if every base symbol that stands below its shift
partner is the base partner of that.** In the base pair such a symbol is not drawn, and the reader
takes the base partner of the symbol above for it. -/
theorem comesBack_iff {t : Text} (h : ofText Registry.builtin t = .ok layout) :
    layout.ComesBack ↔ ∀ key b, layout.symbol key .base = some b →
      layout.symbol key .shift = some (shiftPartner b) → basePartner (shiftPartner b) = b := by
  obtain ⟨drawn, hdrawn, rfl⟩ := drawn_of_ofText h
  rw [hdrawn.comesBack_complete_iff]
  simp only [Lost, symbol_complete, not_exists, not_and, Decidable.not_not]

/-- A letter below its capital, symbols with partners of their own in the other pairs and a dead
key. -/
theorem comesBack_letters :
    ∃ layout, ofText Registry.builtin
        (sketch [(5, 8, 'a'), (5, 10, '<')] [(5, 10, '|'), (4, 16, '\u0301')]) = .ok layout
      ∧ layout.ComesBack := by
  obtain ⟨layout, h, hkept⟩ := exists_of_any_toOption Registry.builtin
    (sketch [(5, 8, 'a'), (5, 10, '<')] [(5, 10, '|'), (4, 16, '\u0301')])
    (fun layout => Key.all.all fun key => (layout.symbol key .base).all fun b =>
      layout.symbol key .shift != some (shiftPartner b) || basePartner (shiftPartner b) == b)
    (by decide +kernel)
  refine ⟨layout, h, (comesBack_iff h).mpr fun key b hb hs => ?_⟩
  have := List.all_eq_true.mp hkept key (Key.mem_all key)
  simpa [hb, hs] using this

/-- The bar has the broken bar above it, whose base partner is itself. -/
theorem not_comesBack_bar :
    ∃ layout, ofText Registry.builtin (sketch [(5, 8, '|')] []) = .ok layout
      ∧ layout.symbol .ad01 .base = some '|' ∧ ¬layout.ComesBack := by
  obtain ⟨layout, h, hbar⟩ := exists_of_any_toOption Registry.builtin
    (sketch [(5, 8, '|')] [])
    (fun layout => layout.symbol .ad01 .base == some '|'
      && layout.symbol .ad01 .shift == some '¦')
    (by decide +kernel)
  simp only [Bool.and_eq_true, beq_iff_eq] at hbar
  obtain ⟨hb, hs⟩ := hbar
  obtain ⟨drawn, hdrawn, rfl⟩ := drawn_of_ofText h
  refine ⟨_, h, hb, fun hback => (hdrawn.comesBack_complete_iff.mp hback) .ad01 ⟨'|', hb, ?_, ?_⟩⟩
  · exact hs
  · decide

end KeyboardLayout.Layout
