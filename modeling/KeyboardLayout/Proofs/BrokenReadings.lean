import KeyboardLayout.Proofs.Places
import KeyboardLayout.Registry.Builtin

/-!
# Readings that break off

A reading changes the layout as it goes, and a fault leaves all that was stored until then. Still
it changes little, wherever it ends: `Layout.Grown` says that it writes only keys of its rows at
the levels of its pair, takes no symbol away and notes new dead keys behind the old ones. And what
a fault leaves is known: if the rows are cut before the place of the fault, they are read without
one, and the broken reading has stored what they store, but for a lower symbol whose upper one was
refused (`BrokenOff`).
-/

namespace KeyboardLayout

namespace Layout

variable {layout before after : Layout} {keys : List Key} {pair : Pair}

/-! ## What readings change -/

theorem layer_put {a b : Level} (h : a ≠ b) (key : Key) (c : Char) :
    (Drawing.put layout a key c).layer b = layout.layer b := by
  unfold Drawing.put
  split
  · rfl
  · rw [write, layer_insert, if_neg h, layer_register]

theorem deadKeys_prefix_put (level : Level) (key : Key) (c : Char) :
    layout.deadKeys <+: (Drawing.put layout level key c).deadKeys := by
  unfold Drawing.put
  split
  · exact List.prefix_rfl
  · rw [deadKeys_write]
    rcases layout.register_cases c with ⟨heq, -⟩ | ⟨dk, -, -, heq⟩
    · exact heq.symm ▸ List.prefix_rfl
    · exact heq.symm ▸ List.prefix_append ..

/-- All that the reading of a pair may change at some keys. -/
structure Grown (keys : List Key) (pair : Pair) (before after : Layout) : Prop where
  metadata_eq : after.metadata = before.metadata
  geometry_eq : after.geometry = before.geometry
  registry_eq : after.registry = before.registry
  layer_eq : ∀ level, level.pair ≠ pair → after.layer level = before.layer level
  symbol_eq : ∀ key, key ∉ keys → ∀ level, after.symbol key level = before.symbol key level
  isSome_symbol : ∀ key level, (before.symbol key level).isSome = true →
    (after.symbol key level).isSome = true
  deadKeys_prefix : before.deadKeys <+: after.deadKeys

theorem Grown.refl (keys : List Key) (pair : Pair) (layout : Layout) :
    Grown keys pair layout layout :=
  ⟨rfl, rfl, rfl, fun _ _ => rfl, fun _ _ _ => rfl, fun _ _ => id, List.prefix_rfl⟩

theorem Grown.put (h : Grown keys pair before after) {level : Level} (hlevel : level.pair = pair)
    {key : Key} (hkey : key ∈ keys) (c : Char) :
    Grown keys pair before (Drawing.put after level key c) where
  metadata_eq := (Drawing.metadata_put ..).trans h.metadata_eq
  geometry_eq := (Drawing.geometry_put ..).trans h.geometry_eq
  registry_eq := (Drawing.registry_put ..).trans h.registry_eq
  layer_eq := by
    intro l hl
    have hne : level ≠ l := by
      rintro rfl
      exact hl hlevel
    rw [layer_put hne, h.layer_eq l hl]
  symbol_eq := by
    intro m hm l
    have hne : key ≠ m := by
      rintro rfl
      exact hm hkey
    rw [Drawing.symbol_put, if_neg (fun h => hne h.2.1), h.symbol_eq m hm l]
  isSome_symbol := by
    intro m l hm
    rw [Drawing.symbol_put]
    split
    · rfl
    · exact h.isSome_symbol m l hm
  deadKeys_prefix := h.deadKeys_prefix.trans (deadKeys_prefix_put ..)

theorem grown_read (layout : Layout) (lines : List Text) (rows : List Row) (pair : Pair) :
    Grown (rows.flatMap (·.keys)) pair layout (Drawing.read layout lines rows pair).layout := by
  refine Drawing.read_induction
    (Q := fun r : Drawing.Reading => Grown (rows.flatMap Row.keys) pair layout r.layout)
    (fun _ _ _ _ h => h) (fun l key hkey cell h => ?_) (Grown.refl ..)
  have hlower := h.put (Pair.pair_lower pair) hkey (Drawing.Cell.symbols pair cell).lower
  rcases Drawing.readPair_cases pair key l (Drawing.Cell.symbols pair cell) with
    ⟨-, heq⟩ | ⟨-, heq⟩ | ⟨-, heq⟩ <;> rw [heq]
  · exact hlower.put (Pair.pair_upper pair) hkey _
  · exact h
  · exact hlower

end Layout

namespace Drawing

variable {layout : Layout} {lines : List Text} {rows above : List Row} {row : Row} {pair : Pair}

/-! ## Where a reading breaks off -/

/-- The rows above a row, and of this row the keys before some other. -/
def cutRows (above : List Row) (row : Row) (before : List Key) : List Row :=
  above ++ [{ row with keys := before }]

/-- One symbol is taken in for a key at a level. Behind the dead keys comes the one of the registry
that it stands for, if it is new. A blank changes nothing. -/
structure Taken (level : Level) (key : Key) (c : Char) (before after : Layout) : Prop where
  not_refused : ¬before.Refuses c
  symbol_eq : ∀ m l, after.symbol m l =
    if level = l ∧ key = m ∧ c ≠ blank then some c else before.symbol m l
  deadKeys_eq : after.deadKeys = before.deadKeys ++
    if c = blank ∨ before.isDeadKey c = true then [] else (before.registry.deadKey? c).toList
  metadata_eq : after.metadata = before.metadata
  geometry_eq : after.geometry = before.geometry
  registry_eq : after.registry = before.registry

theorem taken_put {c : Char} (h : ¬layout.Refuses c) (level : Level) (key : Key) :
    Taken level key c layout (put layout level key c) where
  not_refused := h
  symbol_eq m l := symbol_put layout level l key m c
  deadKeys_eq := by
    by_cases hc : c = blank
    · simp [hc]
    · rw [put_of_ne hc, Layout.deadKeys_write]
      rcases layout.register_cases c with ⟨heq, hold | hunknown⟩ | ⟨dk, hnew, hdk, heq⟩ <;>
        simp [*]
  metadata_eq := metadata_put ..
  geometry_eq := geometry_put ..
  registry_eq := registry_put ..

/-- How the reading of a key at its place ends with a fault: there is no cell, or one of its two
symbols is refused. Only before the upper one something is stored, the lower symbol. -/
inductive CellBroken (lines : List Text) (pair : Pair) (layout : Layout) (p : Key × Place) :
    Reading → Prop
  | missing : p.2.cell? lines = none →
      CellBroken lines pair layout p ⟨layout,
        some (.outOfBounds p.1 (Row.baseLine p.2.row) p.2.column layout.geometry.name)⟩
  | lower {cell : Cell} : p.2.cell? lines = some cell → layout.Refuses (cell.byRule pair).lower →
      CellBroken lines pair layout p
        ⟨layout, some (.unregisteredDeadKey (cell.byRule pair).lower p.1)⟩
  | upper {cell : Cell} {stored : Layout} : p.2.cell? lines = some cell →
      Taken pair.lower p.1 (cell.byRule pair).lower layout stored →
      stored.Refuses (cell.byRule pair).upper →
      CellBroken lines pair layout p
        ⟨stored, some (.unregisteredDeadKey (cell.byRule pair).upper p.1)⟩

/-- How a reading ends with a fault: a line of a row is missing, after the rows above, or the
reading of a key ends with a fault, after the rows cut before it. -/
inductive BrokenOff (layout : Layout) (lines : List Text) (rows : List Row) (pair : Pair) :
    Reading → Prop
  | line {above below : List Row} {row : Row} {first : Key} {line : Nat} :
      rows = above ++ row :: below → row.keys.head? = some first →
      line = Row.shiftLine above.length ∨ line = Row.baseLine above.length →
      lines[line]? = none → (read layout lines above pair).fault? = none →
      BrokenOff layout lines rows pair ⟨(read layout lines above pair).layout,
        some (.outOfBounds first line row.offset layout.geometry.name)⟩
  | cell {above below : List Row} {row : Row} {before after : List Key} {key : Key}
      {reading : Reading} :
      rows = above ++ row :: below → row.keys = before ++ key :: after →
      (read layout lines (cutRows above row before) pair).fault? = none →
      CellBroken lines pair (read layout lines (cutRows above row before) pair).layout
        (key, ⟨above.length, row.column pair before.length⟩) reading →
      BrokenOff layout lines rows pair reading

section
variable {α : Type} {step : Layout → α → Reading}

@[simp] theorem readAll_singleton (layout : Layout) (item : α) :
    readAll step layout [item] = step layout item := by
  simp only [readAll]
  split
  · rename_i hnone
    rw [← hnone]
  · rfl

/-- A reading with a fault has come through some items without one and met it in the next. -/
theorem exists_cut_of_fault {items : List α} (h : (readAll step layout items).fault? ≠ none) :
    ∃ done item rest, items = done ++ item :: rest
      ∧ (readAll step layout done).fault? = none
      ∧ readAll step layout items = step (readAll step layout done).layout item := by
  induction items generalizing layout with
  | nil => exact absurd rfl h
  | cons item rest ih =>
      simp only [readAll] at h ⊢
      cases hfirst : (step layout item).fault? with
      | some fault => exact ⟨[], item, rest, rfl, rfl, rfl⟩
      | none =>
          rw [hfirst] at h
          obtain ⟨done, broken, rest, rfl, hdone, heq⟩ := ih h
          refine ⟨item :: done, broken, rest, rfl, ?_, ?_⟩ <;> simp only [readAll, hfirst]
          · exact hdone
          · exact heq

end

theorem cells_eq_append_cons {done rest : List (Key × Nat)} {item : Key × Nat}
    (h : row.cells pair = done ++ item :: rest) :
    ∃ before key after, row.keys = before ++ key :: after
      ∧ done = Row.cells { row with keys := before } pair
      ∧ item = (key, row.column pair before.length) := by
  obtain ⟨first, last, hkeys, rfl, hlast⟩ := List.map_eq_append_iff.mp h
  obtain ⟨⟨key, k⟩, last', rfl, rfl, rfl⟩ := List.map_eq_cons_iff.mp hlast
  obtain ⟨before, after, hrow, rfl, hafter⟩ := List.zipIdx_eq_append_iff.mp hkeys
  obtain ⟨key', after', rfl, heq, -⟩ := List.zipIdx_eq_cons_iff.mp hafter.symm
  obtain ⟨rfl, rfl⟩ := Prod.mk.inj heq
  exact ⟨before, key, after', hrow, rfl, by simp⟩

theorem read_cutRows (row : Row) (habove : (read layout lines above pair).fault? = none)
    {shift base : Text}
    (hshift : lines[Row.shiftLine above.length]? = some shift)
    (hbase : lines[Row.baseLine above.length]? = some base) (before : List Key) :
    read layout lines (cutRows above row before) pair =
      readAll (readCell pair shift base (Row.baseLine above.length))
        (read layout lines above pair).layout (Row.cells { row with keys := before } pair) := by
  unfold read cutRows at *
  rw [List.zipIdx_append, readAll_append, habove]
  simp only [List.zipIdx_singleton, readAll_singleton, Nat.zero_add, readRow]
  cases before with
  | nil => rfl
  | cons key rest => simp only [hshift, hbase]

theorem cellBroken_readCell {j : Nat} {shift base : Text}
    (hshift : lines[Row.shiftLine j]? = some shift) (hbase : lines[Row.baseLine j]? = some base)
    {item : Key × Nat}
    (h : (readCell pair shift base (Row.baseLine j) layout item).fault? ≠ none) :
    CellBroken lines pair layout (item.1, ⟨j, item.2⟩)
      (readCell pair shift base (Row.baseLine j) layout item) := by
  rw [readCell_eq hshift hbase] at h ⊢
  cases hcell : (Place.mk j item.2).cell? lines with
  | none => exact .missing hcell
  | some cell =>
      simp only [hcell] at h ⊢
      rw [Cell.symbols_eq_byRule] at h ⊢
      rcases readPair_cases pair item.1 layout (cell.byRule pair) with
        ⟨-, heq⟩ | ⟨hrefused, heq⟩ | ⟨⟨htaken, hrefused⟩, heq⟩ <;> rw [heq] at h ⊢
      · exact absurd rfl h
      · exact .lower hcell hrefused
      · exact .upper hcell (taken_put htaken ..) hrefused

theorem brokenOff_readRow {below : List Row} (hrows : rows = above ++ row :: below)
    (habove : (read layout lines above pair).fault? = none)
    (h : (readRow lines pair (read layout lines above pair).layout
      (row, above.length)).fault? ≠ none) :
    BrokenOff layout lines rows pair
      (readRow lines pair (read layout lines above pair).layout (row, above.length)) := by
  have hboard := (frame_read layout lines above pair).2.1
  obtain ⟨offset, keys⟩ := row
  cases keys with
  | nil => exact absurd rfl h
  | cons first keys =>
      cases hshift : lines[Row.shiftLine above.length]? with
      | none =>
          simp only [readRow, hshift, missing, hboard]
          exact .line hrows rfl (Or.inl rfl) hshift habove
      | some shift =>
          cases hbase : lines[Row.baseLine above.length]? with
          | none =>
              simp only [readRow, hshift, hbase, missing, hboard]
              exact .line hrows rfl (Or.inr rfl) hbase habove
          | some base =>
              simp only [readRow, hshift, hbase] at h ⊢
              obtain ⟨done, item, rest, hcells, hdone, heq⟩ := exists_cut_of_fault h
              obtain ⟨before, key, after, hkeys, rfl, rfl⟩ := cells_eq_append_cons hcells
              have hcut := read_cutRows ⟨offset, first :: keys⟩ habove hshift hbase before
              rw [heq] at h ⊢
              refine .cell hrows hkeys ?_ ?_ <;> rw [hcut]
              · exact hdone
              · exact cellBroken_readCell hshift hbase h

theorem brokenOff_read (h : (read layout lines rows pair).fault? ≠ none) :
    BrokenOff layout lines rows pair (read layout lines rows pair) := by
  obtain ⟨done, item, rest, hitems, habove, heq⟩ := exists_cut_of_fault h
  obtain ⟨above, tail, hrows, rfl, htail⟩ := List.zipIdx_eq_append_iff.mp hitems
  obtain ⟨row, below, rfl, rfl, -⟩ := List.zipIdx_eq_cons_iff.mp htail.symm
  rw [Nat.zero_add] at heq
  rw [read, heq] at h ⊢
  exact brokenOff_readRow hrows habove h

/-- **What a reading changes, and what it leaves where it breaks off.** Whether it comes through or
not, it leaves the other levels, other keys and all that is no symbol or dead key alone, and takes
nothing away. If it ends with a fault, then for a missing line it leaves what the rows above have
stored; at a key it leaves what the rows cut before the key have stored, and where the upper symbol
is refused also the lower one with its dead key. -/
theorem read_changes (layout : Layout) (lines : List Text) (rows : List Row) (pair : Pair) :
    Layout.Grown (rows.flatMap (·.keys)) pair layout (read layout lines rows pair).layout
      ∧ ((read layout lines rows pair).fault? ≠ none →
          BrokenOff layout lines rows pair (read layout lines rows pair)) :=
  ⟨Layout.grown_read layout lines rows pair, brokenOff_read⟩

/-- An acute accent below a letter, a circumflex below a mark that is no dead key, and a letter. -/
def unknownMark : Reading :=
  read (.empty {} Registry.Builtin.ergo Registry.builtin)
    [[], "A     \u0345     C".toList, "\u0301     \u0302     c".toList]
    [⟨0, [.ad01, .ad02, .ad03]⟩] .base

/-- The reading breaks off at the second key, whose lower symbol it leaves behind. -/
theorem read_changes_unknownMark :
    unknownMark.fault? ≠ none
      ∧ BrokenOff (.empty {} Registry.Builtin.ergo Registry.builtin)
          [[], "A     \u0345     C".toList, "\u0301     \u0302     c".toList]
          [⟨0, [.ad01, .ad02, .ad03]⟩] .base unknownMark
      ∧ unknownMark.fault? = some (.unregisteredDeadKey '\u0345' .ad02)
      ∧ unknownMark.layout.symbol .ad02 .base = some '\u0302'
      ∧ unknownMark.layout.symbol .ad02 .shift = none
      ∧ unknownMark.layout.symbol .ad03 .base = none
      ∧ unknownMark.layout.deadKeys.map (·.marker) = ['\u0301', '\u0302'] := by
  have hfault : unknownMark.fault? = some (.unregisteredDeadKey '\u0345' .ad02) := by decide
  have hbroken : unknownMark.fault? ≠ none := hfault ▸ Option.some_ne_none _
  exact ⟨hbroken, (read_changes _ _ _ _).2 hbroken, hfault, by decide⟩

end Drawing

end KeyboardLayout
