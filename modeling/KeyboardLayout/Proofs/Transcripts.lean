import KeyboardLayout.Layout.Source
import KeyboardLayout.Proofs.DrawnText
import KeyboardLayout.Proofs.Filling

/-!
# What a reading has read

A reading without a fault is known by its transcript: the slots that it met, which are the keys of
the pairs in the order of the board, and the symbols read for each of them. A source that is read
without a fault has a transcript over all slots of its board, whichever of its blocks are blank
(`transcribed_readSource`). If no slot is met twice, the layout shows for each slot what the
transcript says (`shownPair_of_mem`), so that a layout is its own transcript (`eq_map_findingOf`).
-/

namespace KeyboardLayout

namespace Drawing

/-! ## Findings -/

/-- The symbols read for one key of a pair. -/
structure Finding where
  pair : Pair
  key : Key
  symbols : Cell

def Finding.slot (finding : Finding) : Pair × Key :=
  (finding.pair, finding.key)

/-- The symbols leave nothing to be derived and can stand in one line. -/
structure Finding.Sound (finding : Finding) : Prop where
  derived : finding.symbols.Derived finding.pair
  lower_ne_feed : finding.symbols.lower ≠ '\n'
  upper_ne_feed : finding.symbols.upper ≠ '\n'

def readFinding (layout : Layout) (finding : Finding) : Reading :=
  readPair finding.pair finding.key layout finding.symbols

/-- The keys of one pair as slots. -/
def pairSlots (keys : List Key) (pair : Pair) : List (Pair × Key) :=
  keys.map (pair, ·)

/-- The reading has read the slots, one after the other. -/
def Transcribed (layout : Layout) (reading : Reading) (slots : List (Pair × Key)) : Prop :=
  ∃ findings : List Finding, findings.map Finding.slot = slots
    ∧ (∀ finding ∈ findings, finding.Sound) ∧ reading = readAll readFinding layout findings

variable {layout : Layout} {lines : List Text} {rows : List Row} {pair : Pair}

/-! ## Transcripts of readings -/

theorem transcribed_nil : Transcribed layout ⟨layout, none⟩ [] :=
  ⟨[], rfl, by simp, rfl⟩

@[simp] theorem readPair_empty (pair : Pair) (key : Key) :
    readPair pair key layout Cell.empty = ⟨layout, none⟩ := by
  simp [readPair, readAll, readSymbol, Cell.empty]

/-- Reading nothing is reading empty cells. -/
theorem transcribed_empty (slots : List (Pair × Key)) :
    Transcribed layout ⟨layout, none⟩ slots := by
  refine ⟨slots.map fun slot => ⟨slot.1, slot.2, Cell.empty⟩, ?_, ?_, ?_⟩
  · simp [Function.comp_def, Finding.slot]
  · intro finding hfinding
    obtain ⟨slot, -, rfl⟩ := List.mem_map.mp hfinding
    exact ⟨Cell.derived_empty _, by simp [Cell.empty, blank], by simp [Cell.empty, blank]⟩
  · induction slots with
    | nil => rfl
    | cons slot rest ih => simpa [readAll, readFinding] using ih

theorem mem_of_charAt? {i j : Nat} {c : Char} (h : charAt? lines i j = some c) :
    ∃ line ∈ lines, c ∈ line :=
  mem_iff_charAt?.mpr ⟨i, j, h⟩

theorem transcribed_read (hlines : ∀ line ∈ lines, '\n' ∉ line)
    (hok : (read layout lines rows pair).fault? = none) :
    Transcribed layout (read layout lines rows pair)
      (pairSlots (rows.flatMap (·.keys)) pair) := by
  have hcell : ∀ p ∈ places rows pair,
      p.2.cell? lines = some ((p.2.cell? lines).getD Cell.empty) := by
    intro p hp
    obtain ⟨cell, hc⟩ := exists_cell_of_read hok hp
    rw [hc, Option.getD_some]
  refine ⟨(places rows pair).map fun p =>
    ⟨pair, p.1, Cell.symbols pair ((p.2.cell? lines).getD Cell.empty)⟩, ?_, ?_, ?_⟩
  · simp only [List.map_map, Function.comp_def, Finding.slot, pairSlots, ← map_fst_places rows pair]
  · intro finding hfinding
    obtain ⟨p, hp, rfl⟩ := List.mem_map.mp hfinding
    have hfeed : ∀ {i j c}, charAt? lines i j = some c → c ≠ '\n' := by
      rintro i j c hc rfl
      obtain ⟨line, hline, hmem⟩ := mem_of_charAt? hc
      exact hlines line hline hmem
    obtain ⟨hlower, hupper⟩ := Place.cell?_eq_some_iff.mp (hcell p hp)
    obtain ⟨hl, hu⟩ := Cell.symbols_ne_feed pair (hfeed hlower) (hfeed hupper)
    exact ⟨Cell.derived_symbols .., hl, hu⟩
  · rw [read_eq_readAll hcell, readAll_map]
    rfl

section
variable {α : Type} {step : Layout → α → Reading} {slots : α → List (Pair × Key)}
  {P : Layout → Prop}

/-- Transcripts of the steps of a reading make one of the whole. -/
theorem transcribed_readAll {items : List α}
    (hstep : ∀ layout, ∀ item ∈ items, P layout → (step layout item).fault? = none →
      Transcribed layout (step layout item) (slots item) ∧ P (step layout item).layout)
    (h : P layout) (hok : (readAll step layout items).fault? = none) :
    Transcribed layout (readAll step layout items) (items.flatMap slots) := by
  induction items generalizing layout with
  | nil => exact transcribed_nil
  | cons item rest ih =>
      simp only [readAll] at hok ⊢
      cases hfirst : (step layout item).fault? with
      | some fault =>
          simp only [hfirst] at hok
          cases hok
      | none =>
          simp only [hfirst] at hok ⊢
          obtain ⟨⟨es, hslots, hsound, heq⟩, hP⟩ :=
            hstep layout item (List.mem_cons_self ..) h hfirst
          obtain ⟨es', hslots', hsound', heq'⟩ :=
            ih (fun l i hi => hstep l i (List.mem_cons_of_mem _ hi)) hP hok
          refine ⟨es ++ es', by simp [hslots, hslots'], ?_, ?_⟩
          · intro finding hfinding
            rcases List.mem_append.mp hfinding with hfinding | hfinding
            · exact hsound finding hfinding
            · exact hsound' finding hfinding
          · rw [readAll_append, ← heq, hfirst, heq']

end

/-! ## What the layout shows afterwards -/

/-- Where a slot has been read, what it shows is the symbols read, and no other slot changes. -/
theorem shownPair_readFinding {finding : Finding} (hok : (readFinding layout finding).fault? = none)
    (pair : Pair) (key : Key) :
    shownPair (readFinding layout finding).layout pair key =
      if finding.slot = (pair, key) then
        ⟨if finding.symbols.lower = blank then shown layout key pair.lower
          else finding.symbols.lower,
        if finding.symbols.upper = blank then shown layout key pair.upper
          else finding.symbols.upper⟩
      else shownPair layout pair key := by
  obtain ⟨epair, ekey, s⟩ := finding
  have hlower : epair.lower = pair.lower ↔ epair = pair := by cases epair <;> cases pair <;> decide
  have hupper : epair.upper = pair.upper ↔ epair = pair := by cases epair <;> cases pair <;> decide
  have hne : epair.lower ≠ pair.upper := by cases epair <;> cases pair <;> decide
  have hne' : epair.upper ≠ pair.lower := by cases epair <;> cases pair <;> decide
  unfold readFinding at hok ⊢
  obtain ⟨-, heq⟩ | ⟨-, heq⟩ | ⟨-, heq⟩ := readPair_cases epair ekey layout s <;>
    simp only [heq] at hok ⊢
  · simp only [shownPair, shown, symbol_put, Finding.slot, Prod.mk.injEq, hlower, hupper, hne, hne',
      false_and, if_false]
    grind
  · cases hok
  · cases hok

theorem shownPair_of_not_mem {findings : List Finding}
    (hok : (readAll readFinding layout findings).fault? = none) {pair : Pair} {key : Key}
    (h : (pair, key) ∉ findings.map Finding.slot) :
    shownPair (readAll readFinding layout findings).layout pair key =
      shownPair layout pair key := by
  induction findings generalizing layout with
  | nil => rfl
  | cons finding rest ih =>
      obtain ⟨hfirst, heq⟩ := fault?_eq_none_of_cons hok
      rw [List.map_cons, List.mem_cons, not_or] at h
      rw [heq] at hok ⊢
      rw [ih hok h.2, shownPair_readFinding hfirst, if_neg (Ne.symm h.1)]

/-- If no slot is read twice, the layout shows for each what was read. -/
theorem shownPair_of_mem {findings : List Finding} (hnodup : (findings.map Finding.slot).Nodup)
    (hok : (readAll readFinding layout findings).fault? = none)
    (hempty : ∀ finding ∈ findings, shownPair layout finding.pair finding.key = Cell.empty)
    {finding : Finding} (hfinding : finding ∈ findings) :
    shownPair (readAll readFinding layout findings).layout finding.pair finding.key =
      finding.symbols := by
  induction findings generalizing layout with
  | nil => cases hfinding
  | cons first rest ih =>
      obtain ⟨hfirst, heq⟩ := fault?_eq_none_of_cons hok
      rw [List.map_cons, List.nodup_cons] at hnodup
      rw [heq] at hok ⊢
      rcases List.mem_cons.mp hfinding with rfl | hfinding
      · have hblank := hempty finding (List.mem_cons_self ..)
        simp only [shownPair, Cell.empty, Cell.mk.injEq] at hblank
        rw [shownPair_of_not_mem hok hnodup.1, shownPair_readFinding hfirst,
          if_pos (show finding.slot = (finding.pair, finding.key) from rfl), hblank.1, hblank.2]
        obtain ⟨pair, key, lower, upper⟩ := finding
        grind
      · refine ih hnodup.2 hok (fun e he => ?_) hfinding
        have hne : first.slot ≠ (e.pair, e.key) := fun h => hnodup.1 (h ▸ List.mem_map_of_mem he)
        rw [shownPair_readFinding hfirst, if_neg hne]
        exact hempty e (List.mem_cons_of_mem _ he)

/-- The finding that a layout shows for a slot. -/
def findingOf (layout : Layout) (slot : Pair × Key) : Finding :=
  ⟨slot.1, slot.2, shownPair layout slot.1 slot.2⟩

/-- A layout that was read from the empty one is its own transcript. -/
theorem eq_map_findingOf {findings : List Finding} (hnodup : (findings.map Finding.slot).Nodup)
    (hok : (readAll readFinding layout findings).fault? = none)
    (hempty : ∀ pair key, shownPair layout pair key = Cell.empty) :
    findings =
      (findings.map Finding.slot).map (findingOf (readAll readFinding layout findings).layout) := by
  rw [List.map_map]
  refine (List.map_id'' (fun finding => rfl) findings).symm.trans (List.map_congr_left ?_)
  intro finding hfinding
  rw [Function.comp_apply, findingOf, Finding.slot,
    shownPair_of_mem hnodup hok (fun e _ => hempty e.pair e.key) hfinding]

end Drawing

/-! ## Sources -/

/-- The slots of a board, in the order in which a source is read. -/
def Geometry.slots (geometry : Geometry) : List (Pair × Key) :=
  [.base, .deadKey, .altGr].flatMap (Drawing.pairSlots geometry.keys)

theorem Geometry.nodup_slots {geometry : Geometry} (h : geometry.keys.Nodup) :
    geometry.slots.Nodup := by
  refine List.pairwise_flatMap.mpr ⟨fun pair _ => ?_, ?_⟩
  · exact List.pairwise_map.mpr (h.imp fun hne heq => hne (Prod.mk.inj heq).2)
  · have hpairs : [Pair.base, .deadKey, .altGr].Nodup := by decide
    refine hpairs.imp fun hne s hs t ht heq => hne ?_
    obtain ⟨_, _, rfl⟩ := List.mem_map.mp hs
    obtain ⟨_, _, rfl⟩ := List.mem_map.mp ht
    exact (Prod.mk.inj heq).1

theorem Geometry.mem_slots {geometry : Geometry} {pair : Pair} {key : Key} :
    (pair, key) ∈ geometry.slots ↔ key ∈ geometry.keys := by
  cases pair <;> simp [slots, Drawing.pairSlots]

namespace Layout

open Drawing (Transcribed pairSlots)

variable {layout : Layout}

theorem transcribed_readBlock {geometry : Geometry} (hgeometry : layout.geometry = geometry)
    (block : Text × List Pair) (hok : (Source.readBlock layout block).fault? = none) :
    Transcribed layout (Source.readBlock layout block)
        (block.2.flatMap (pairSlots geometry.keys))
      ∧ (Source.readBlock layout block).layout.geometry = geometry := by
  unfold Source.readBlock at hok ⊢
  split
  · exact ⟨Drawing.transcribed_empty _, hgeometry⟩
  · rename_i hdrawn
    rw [if_neg hdrawn] at hok
    refine ⟨?_, ?_⟩
    · refine Drawing.transcribed_readAll (P := fun l => l.geometry = geometry) ?_ hgeometry hok
      rintro l pair - rfl hread
      exact ⟨Drawing.transcribed_read (fun _ => Text.not_mem_of_mem_lines) hread,
        (Drawing.frame_read ..).2.1⟩
    · refine Drawing.readAll_induction (P := fun l => l.geometry = geometry) ?_ _ hgeometry
      exact fun l pair h => (Drawing.frame_read ..).2.1.trans h

/-- A source that is read without a fault says something about every slot of its board. -/
theorem transcribed_readSource (source : Source)
    (hok : (layout.readSource source).fault? = none) :
    Transcribed layout (layout.readSource source) layout.geometry.slots := by
  have h : Transcribed layout (Drawing.readAll Source.readBlock layout source.blocks)
      (source.blocks.flatMap fun block => block.2.flatMap (pairSlots layout.geometry.keys)) :=
    Drawing.transcribed_readAll (P := fun l => l.geometry = layout.geometry)
      (fun _ block _ hgeometry hread => transcribed_readBlock hgeometry block hread) rfl hok
  simpa [readSource, Source.blocks, Geometry.slots] using h

end Layout

end KeyboardLayout
