import KeyboardLayout.Proofs.Redrawing

/-!
# Filling a blank drawing and reading it back

A layout that was read without a fault is drawn into blank cells, on any rows, and the drawing is
read into an empty layout with the same registry. The way back never meets a fault
(`fault?_drawnFindings`): a combining mark that is stored is a dead key of the registry, and the
partner that takes the place of a symbol left out is no mark of its own
(`basePartner_eq_of_isMark`). What comes back are the symbols of the pair at the keys of the rows,
unless the base symbol of one of these keys is lost (`read_fill_iff`).
-/

namespace KeyboardLayout

/-! ## Marks -/

theorem lowercase_avoids_marks :
    ∀ block ∈ Text.markBlocks, Unicode.lowercaseMap.avoids block.1 block.2 = true
      ∧ 0 < block.1 := by
  decide

/-- A combining mark is the base partner of itself only. -/
theorem basePartner_eq_of_isMark {c : Char} (h : Text.isMark (basePartner c) = true) :
    basePartner c = c := by
  obtain ⟨block, hblock, hin⟩ := List.any_eq_true.mp h
  rw [Bool.and_eq_true, decide_eq_true_eq, decide_eq_true_eq] at hin
  obtain ⟨havoids, hpos⟩ := lowercase_avoids_marks block hblock
  unfold basePartner at hin ⊢
  cases hs : singleLower? c with
  | none => rfl
  | some lower =>
      rw [hs, Option.getD_some] at hin
      exact Unicode.CaseMap.eq_of_avoids havoids hpos hs hin.1 hin.2

namespace Drawing

/-! ## Readings that meet no fault -/

variable {registry : Registry} {layout : Layout}

/-- Findings of accepted symbols are read without a fault. -/
theorem fault?_readAll_readFinding (h : layout.registry = registry) {findings : List Finding}
    (haccepted : ∀ finding ∈ findings,
      Accepted registry finding.symbols.lower ∧ Accepted registry finding.symbols.upper) :
    (readAll readFinding layout findings).fault? = none := by
  induction findings generalizing layout with
  | nil => rfl
  | cons finding rest ih =>
      obtain ⟨⟨hlower, hupper⟩, hrest⟩ := List.forall_mem_cons.mp haccepted
      have hlayout : ∀ level key c, (put layout level key c).registry = registry :=
        fun _ _ _ => (registry_put ..).trans h
      have hfirst : readFinding layout finding =
          ⟨put (put layout finding.pair.lower finding.key finding.symbols.lower)
            finding.pair.upper finding.key finding.symbols.upper, none⟩ := by
        simp only [readFinding, readPair, readAll, readSymbol_of_accepted h hlower,
          readSymbol_of_accepted (hlayout _ _ _) hupper]
      simp only [readAll, hfirst]
      exact ih ((registry_put ..).trans (hlayout _ _ _)) hrest

end Drawing

namespace Layout

open Drawing

variable {registry : Registry} {layout : Layout}

/-! ## What a layout shows -/

theorem accepted_shown (h : layout.Noted) (key : Key) (level : Level) :
    Accepted layout.registry (shown layout key level) := by
  intro hne hmark
  have hdead := h.noted key level _ (symbol_eq_of_shown hne) (Or.inr hmark)
  obtain ⟨dk, hdk, hmarker⟩ := List.mem_map.mp (isDeadKey_iff.mp hdead)
  rw [← hmarker, h.known dk hdk]
  rfl

/-- The symbols of a layout that was read without a fault leave nothing to be derived. -/
theorem derived_shownPair (h : layout.Orderly) (hderived : layout.Derived) (pair : Pair)
    (key : Key) : (shownPair layout pair key).Derived pair := by
  have hnone : ∀ level, shown layout key level = blank → layout.symbol key level = none := by
    intro level hshown
    cases hs : layout.symbol key level with
    | none => rfl
    | some c =>
        simp only [shown, hs, Option.getD_some] at hshown
        exact absurd (hshown ▸ hs) (h.symbol_ne_blank key level)
  refine ⟨fun hupper => ?_, ?_⟩
  · cases hs : layout.symbol key pair.lower with
    | none => simp [shownPair, shown, hs]
    | some c =>
        have := hderived pair key c hs (hnone pair.upper hupper)
        simpa [shownPair, shown, hs] using this
  · rintro rfl hlower
    have hbase := h.base_of_shift key
    rw [show layout.symbol key .base = none from hnone .base hlower] at hbase
    cases hs : layout.symbol key .shift with
    | none => simp [shownPair, shown, Pair.upper, hs]
    | some c =>
        rw [hs] at hbase
        cases hbase rfl

/-- Layouts that store no blank have the same symbol where they show the same. -/
theorem symbol_eq_iff_shown {other : Layout} {key : Key} {level : Level}
    (h : layout.symbol key level ≠ some blank) (h' : other.symbol key level ≠ some blank) :
    layout.symbol key level = other.symbol key level ↔
      shown layout key level = shown other key level := by
  unfold shown
  cases hs : layout.symbol key level <;> cases hs' : other.symbol key level <;> grind

/-! ## Reading the drawing of a layout -/

/-- What the drawing of a layout shows is accepted by its registry. -/
theorem accepted_drawnFinding (h : layout.Orderly) (hderived : layout.Derived)
    (slot : Pair × Key) :
    Accepted layout.registry (layout.drawnFinding slot).symbols.lower
      ∧ Accepted layout.registry (layout.drawnFinding slot).symbols.upper := by
  obtain ⟨pair, key⟩ := slot
  have hlower := accepted_shown h.toNoted key pair.lower
  have hupper := accepted_shown h.toNoted key pair.upper
  simp only [drawnFinding, Cell.symbols_draw (derived_shownPair h hderived pair key)]
  split
  · -- The lower symbol was left out: the base partner of the upper one stands for it.
    refine ⟨fun hne hmark => ?_, hupper⟩
    have heq := basePartner_eq_of_isMark hmark
    simp only [heq] at hne hmark ⊢
    exact hupper hne hmark
  · exact ⟨hlower, hupper⟩

theorem fault?_drawnFindings (h : layout.Orderly) (hderived : layout.Derived) (start : Layout)
    (hstart : start.registry = layout.registry) (slots : List (Pair × Key)) :
    (readAll readFinding start (slots.map layout.drawnFinding)).fault? = none := by
  refine fault?_readAll_readFinding hstart fun finding hfinding => ?_
  obtain ⟨slot, -, rfl⟩ := List.mem_map.mp hfinding
  exact accepted_drawnFinding h hderived slot

variable {metadata : Metadata} {geometry : Geometry} {lines : List Text} {rows : List Row}
  {pair : Pair}

/-- The layout holds what the other one holds at the levels of the pair for some keys, and nothing
else. -/
def HoldsOnly (back layout : Layout) (keys : List Key) (pair : Pair) : Prop :=
  ∀ key level, back.symbol key level =
    if key ∈ keys ∧ level.pair = pair then layout.symbol key level else none

/-- What a layout holds is known from what it shows for each slot. -/
theorem holdsOnly_iff {back : Layout} (hback : ∀ key level, back.symbol key level ≠ some blank)
    (hlayout : ∀ key level, layout.symbol key level ≠ some blank) {keys : List Key}
    (hothers : ∀ p key, p ≠ pair ∨ key ∉ keys → shownPair back p key = Cell.empty) :
    HoldsOnly back layout keys pair ↔
      ∀ key ∈ keys, shownPair back pair key = shownPair layout pair key := by
  have hempty : ∀ key level, ¬(key ∈ keys ∧ level.pair = pair) →
      back.symbol key level = none := by
    intro key level hout
    have hshown : shownPair back level.pair key = Cell.empty := by
      refine hothers _ _ ?_
      by_cases hp : level.pair = pair
      · exact Or.inr fun hkey => hout ⟨hkey, hp⟩
      · exact Or.inl hp
    have hblank : shown back key level = blank := by
      cases level <;> first | exact congrArg Cell.lower hshown | exact congrArg Cell.upper hshown
    cases hs : back.symbol key level with
    | none => rfl
    | some c =>
        simp only [shown, hs, Option.getD_some] at hblank
        exact absurd (hblank ▸ hs) (hback key level)
  constructor
  · intro h key hkey
    have hsame : ∀ level, level.pair = pair → shown back key level = shown layout key level := by
      intro level hlevel
      have := h key level
      rw [if_pos ⟨hkey, hlevel⟩] at this
      rw [shown, this, shown]
    exact (Cell.mk.injEq ..).mpr ⟨hsame _ (Pair.pair_lower pair), hsame _ (Pair.pair_upper pair)⟩
  · intro h key level
    split
    · rename_i hin
      obtain ⟨hkey, rfl⟩ := hin
      rw [symbol_eq_iff_shown (hback key level) (hlayout key level)]
      have := h key hkey
      cases level <;> first | exact congrArg Cell.lower this | exact congrArg Cell.upper this
    · exact hempty key level ‹_›

/-- Reading what the drawing shows for some keys of a pair puts exactly that into an empty
layout. -/
theorem shownPair_readAll_drawnFindings (h : layout.Orderly) (hderived : layout.Derived)
    (hregistry : layout.registry = registry) {keys : List Key} (hkeys : keys.Nodup) (pair : Pair)
    {back : Layout} (hback : back = (readAll readFinding (empty metadata geometry registry)
      ((pairSlots keys pair).map layout.drawnFinding)).layout) :
    (∀ key ∈ keys, shownPair back pair key = (layout.drawnFinding (pair, key)).symbols)
      ∧ ∀ p key, p ≠ pair ∨ key ∉ keys → shownPair back p key = Cell.empty := by
  subst hback
  have hok := fault?_drawnFindings h hderived (empty metadata geometry registry) hregistry.symm
    (pairSlots keys pair)
  have hslots : ((pairSlots keys pair).map layout.drawnFinding).map Finding.slot =
      pairSlots keys pair := by
    rw [List.map_map]
    exact List.map_id'' (fun _ => rfl) _
  refine ⟨fun key hkey => ?_, fun p key hout => ?_⟩
  · have hnodup : (pairSlots keys pair).Nodup :=
      List.pairwise_map.mpr (hkeys.imp fun hne heq => hne (Prod.mk.inj heq).2)
    have hmem : layout.drawnFinding (pair, key) ∈
        (pairSlots keys pair).map layout.drawnFinding :=
      List.mem_map_of_mem (List.mem_map_of_mem hkey)
    exact shownPair_of_mem (hslots.symm ▸ hnodup) hok (fun finding _ => shownPair_empty ..) hmem
  · rw [Drawing.shownPair_of_not_mem hok, shownPair_empty]
    rw [hslots, pairSlots, List.mem_map]
    rintro ⟨key', hkey', heq⟩
    obtain ⟨rfl, rfl⟩ := Prod.mk.inj heq
    exact hout.elim (· rfl) (· hkey')

/-- **What comes back from a filled drawing.** A layout that was read without a fault is drawn into
blank cells and read back on any rows without repeated keys. That meets no fault. The symbols of
the pair come back and nothing else, exactly if in the base pair every symbol below its shift
partner is the base partner of that. -/
theorem read_fill_iff (h : Reached registry true layout)
    (hkeys : (rows.flatMap (·.keys)).Nodup)
    (hblank : ∀ p ∈ places rows pair, p.2.cell? lines = some Cell.empty) :
    (read (empty metadata geometry registry) (fill layout lines rows pair) rows pair).fault? = none
      ∧ (HoldsOnly (read (empty metadata geometry registry) (fill layout lines rows pair) rows
            pair).layout layout (rows.flatMap (·.keys)) pair ↔
          (pair = .base → ∀ key ∈ rows.flatMap (·.keys), ∀ b, layout.symbol key .base = some b →
            layout.symbol key .shift = some (shiftPartner b) →
              basePartner (shiftPartner b) = b)) := by
  have hord := orderly_of_reached h
  have hderived := derived_of_reached h rfl
  have hregistry := registry_of_reached h
  have horderly : (Drawing.read (empty metadata geometry registry) (fill layout lines rows pair)
      rows pair).layout.Orderly := orderly_read orderly_empty
  have hfits : ∀ row ∈ rows, row.Fits := fits_of_nodup hkeys
  rw [read_eq_drawnFindings (fun p hp => cell?_fill hfits hp (hblank p hp))] at horderly ⊢
  refine ⟨fault?_drawnFindings hord hderived _ hregistry.symm _, ?_⟩
  obtain ⟨hsymbols, hothers⟩ :=
    shownPair_readAll_drawnFindings hord hderived hregistry hkeys pair rfl
  rw [holdsOnly_iff horderly.symbol_ne_blank hord.symbol_ne_blank hothers]
  have hkept : ∀ key ∈ rows.flatMap (·.keys),
      shownPair (readAll readFinding (empty metadata geometry registry)
          ((pairSlots (rows.flatMap (·.keys)) pair).map layout.drawnFinding)).layout pair key =
        shownPair layout pair key ↔ (pair = .base → ¬layout.Lost key) := by
    intro key hkey
    rw [hsymbols key hkey, ← drawnFinding_eq_iff hord.symbol_ne_blank
      (derived_shownPair hord hderived pair key)]
    simp only [drawnFinding, findingOf, Finding.mk.injEq, true_and]
  constructor
  · rintro hall rfl key hkey b hb hs
    have hnot := (hkept key hkey).mp (hall key hkey) rfl
    exact Decidable.byContradiction fun hne => hnot ⟨b, hb, hs, hne⟩
  · intro hall key hkey
    refine (hkept key hkey).mpr fun hp => ?_
    rintro ⟨b, hb, hs, hne⟩
    exact hne (hall hp key hkey b hb hs)

/-- A letter and a bar, each with its shift partner. -/
def letterAndBar : Reading :=
  Drawing.read (empty {} Registry.Builtin.ergo Registry.builtin)
    [[], "       ".toList, "a     |".toList] [⟨0, [.ad01, .ad02]⟩] .base

/-- They are read back without a fault, but the broken bar comes back for the bar. -/
theorem read_fill_letterAndBar :
    Reached Registry.builtin true letterAndBar.layout
      ∧ (∀ p ∈ places [⟨0, [.ad01, .ad02]⟩] .base,
          p.2.cell? (List.replicate 3 "       ".toList) = some Cell.empty)
      ∧ (Drawing.read (empty {} Registry.Builtin.iso Registry.builtin)
          (fill letterAndBar.layout (List.replicate 3 "       ".toList) [⟨0, [.ad01, .ad02]⟩] .base)
          [⟨0, [.ad01, .ad02]⟩] .base).fault? = none
      ∧ ¬HoldsOnly (Drawing.read (empty {} Registry.Builtin.iso Registry.builtin)
          (fill letterAndBar.layout (List.replicate 3 "       ".toList) [⟨0, [.ad01, .ad02]⟩] .base)
          [⟨0, [.ad01, .ad02]⟩] .base).layout letterAndBar.layout [.ad01, .ad02] .base := by
  have hnew : new {} "ERGO".toList Registry.builtin
      = .ok (empty {} Registry.Builtin.ergo Registry.builtin) := rfl
  have hfault : letterAndBar.fault?.isNone = true := by decide
  have h : Reached Registry.builtin (true && letterAndBar.fault?.isNone) letterAndBar.layout :=
    .read _ _ _ (.new hnew)
  rw [hfault] at h
  have hcells : ∀ p ∈ places [⟨0, [.ad01, .ad02]⟩] .base,
      p.2.cell? (List.replicate 3 "       ".toList) = some Cell.empty := by decide
  obtain ⟨hok, hiff⟩ := read_fill_iff h (by decide) hcells
  refine ⟨h, hcells, hok, fun hholds => ?_⟩
  have hback := hiff.mp hholds rfl .ad02 (by decide) '|' (by decide) (by decide)
  exact absurd hback (by decide)

end Layout

end KeyboardLayout
