import KeyboardLayout.Drawing

/-!
# Reading, one symbol at a time

A reading changes a layout through `Layout.write` only, which notes a symbol as a dead key and
stores it. `readSymbol_cases` says everything that one symbol of a drawing can do: the layout
refuses it (`Layout.Refuses`), or takes it in (`put`). `read_induction` carries a property of
readings from the cells of a drawing to the whole of it, the fault that may end it included.
-/

namespace KeyboardLayout

namespace Layout

variable {layout : Layout} {c : Char}

/-- The layout with the symbol noted as a dead key and stored. -/
def write (layout : Layout) (level : Level) (key : Key) (c : Char) : Layout :=
  (layout.register c).insert level key c

/-! ## Noting dead keys -/

theorem mem_of_deadKey? {dk : DeadKey} :
    layout.deadKey? c = some dk → dk ∈ layout.deadKeys ∧ dk.marker = c := by
  intro h
  exact ⟨List.mem_of_find?_eq_some h, by simpa using List.find?_some h⟩

theorem isDeadKey_iff : layout.isDeadKey c = true ↔ c ∈ layout.deadKeys.map (·.marker) := by
  simp [isDeadKey, deadKey?, List.find?_isSome]

/-- Noting a symbol changes nothing, or adds the registry's dead key of that marker. -/
theorem register_cases (layout : Layout) (c : Char) :
    (layout.register c = layout
        ∧ (layout.isDeadKey c = true ∨ layout.registry.deadKey? c = none))
      ∨ ∃ dk, layout.isDeadKey c = false ∧ layout.registry.deadKey? c = some dk
        ∧ layout.register c = { layout with deadKeys := layout.deadKeys ++ [dk] } := by
  unfold register
  split
  · rename_i h
    exact Or.inl ⟨rfl, Or.inl h⟩
  · rename_i h
    split
    · rename_i dk hdk
      exact Or.inr ⟨dk, by simpa using h, hdk, rfl⟩
    · rename_i hnone
      exact Or.inl ⟨rfl, Or.inr hnone⟩

@[simp] theorem symbol_register (key : Key) (level : Level) :
    (layout.register c).symbol key level = layout.symbol key level := by
  simp [symbol]

@[simp] theorem registry_register : (layout.register c).registry = layout.registry := by
  obtain ⟨h, -⟩ | ⟨dk, -, -, h⟩ := layout.register_cases c <;> rw [h]

@[simp] theorem geometry_register : (layout.register c).geometry = layout.geometry := by
  obtain ⟨h, -⟩ | ⟨dk, -, -, h⟩ := layout.register_cases c <;> rw [h]

@[simp] theorem metadata_register : (layout.register c).metadata = layout.metadata := by
  obtain ⟨h, -⟩ | ⟨dk, -, -, h⟩ := layout.register_cases c <;> rw [h]

/-- After noting, the dead keys are those of before and the noted one, if the registry has it. -/
theorem isDeadKey_register (layout : Layout) (c d : Char) :
    (layout.register c).isDeadKey d = true ↔
      layout.isDeadKey d = true ∨ (d = c ∧ (layout.registry.deadKey? c).isSome = true) := by
  obtain ⟨h, hor⟩ | ⟨dk, hnew, hdk, h⟩ := layout.register_cases c
  · rw [h]
    refine ⟨Or.inl, ?_⟩
    rintro (hd | ⟨rfl, hsome⟩)
    · exact hd
    · rcases hor with hd | hnone
      · exact hd
      · simp [hnone] at hsome
  · have hm := Registry.marker_of_deadKey? hdk
    simp only [h, isDeadKey_iff, List.map_append, List.mem_append, List.map_cons, List.map_nil,
      List.mem_singleton, hdk, Option.isSome_some, and_true, hm]

/-- The layout refuses a combining mark that neither it nor its registry has as a dead key. -/
structure Refuses (layout : Layout) (c : Char) : Prop where
  isMark : Text.isMark c = true
  not_isDeadKey : layout.isDeadKey c = false
  not_known : layout.registry.deadKey? c = none

/-- What is refused is a mark that stays unknown when it is noted. -/
theorem refuses_iff :
    layout.Refuses c ↔ Text.isMark c = true ∧ (layout.register c).isDeadKey c = false := by
  rw [Bool.eq_false_iff, ne_eq, isDeadKey_register, not_or]
  constructor
  · rintro ⟨hmark, hdead, hknown⟩
    simp [hmark, hdead, hknown]
  · rintro ⟨hmark, hdead, hknown⟩
    exact ⟨hmark, Bool.eq_false_iff.mpr hdead, by simpa using hknown⟩

theorem isDeadKey_register_of_not_refuses (h : ¬layout.Refuses c) (hmark : Text.isMark c = true) :
    (layout.register c).isDeadKey c = true :=
  Decidable.byContradiction fun hdead =>
    h (refuses_iff.mpr ⟨hmark, Bool.eq_false_iff.mpr hdead⟩)

theorem not_refuses_blank : ¬layout.Refuses blank := by
  intro h
  have hmark : Text.isMark blank = false := by decide
  cases hmark.symm.trans h.isMark

@[simp] theorem isDeadKey_write (level : Level) (key : Key) (d : Char) :
    (layout.write level key c).isDeadKey d = (layout.register c).isDeadKey d := rfl

@[simp] theorem deadKeys_write (level : Level) (key : Key) :
    (layout.write level key c).deadKeys = (layout.register c).deadKeys := rfl

@[simp] theorem registry_write (level : Level) (key : Key) :
    (layout.write level key c).registry = layout.registry := by
  simp [write, insert]

@[simp] theorem geometry_write (level : Level) (key : Key) :
    (layout.write level key c).geometry = layout.geometry := by
  simp [write, insert]

@[simp] theorem metadata_write (level : Level) (key : Key) :
    (layout.write level key c).metadata = layout.metadata := by
  simp [write, insert]

/-- Writing changes one cell and no other. -/
theorem symbol_write (layout : Layout) (a b : Level) (k m : Key) (c : Char) :
    (layout.write a k c).symbol m b = if a = b ∧ k = m then some c else layout.symbol m b := by
  simp [write, symbol_insert]

end Layout

namespace Drawing

variable {layout : Layout}

/-! ## One symbol -/

/-- What a reading does to the layout with a symbol that it accepts: a blank says nothing. -/
def put (layout : Layout) (level : Level) (key : Key) (c : Char) : Layout :=
  if c = blank then layout else layout.write level key c

@[simp] theorem put_blank (level : Level) (key : Key) : put layout level key blank = layout :=
  if_pos rfl

theorem put_of_ne {c : Char} (h : c ≠ blank) (level : Level) (key : Key) :
    put layout level key c = layout.write level key c :=
  if_neg h

theorem symbol_put (layout : Layout) (a b : Level) (k m : Key) (c : Char) :
    (put layout a k c).symbol m b =
      if a = b ∧ k = m ∧ c ≠ blank then some c else layout.symbol m b := by
  by_cases hc : c = blank
  · simp [put, hc]
  · simp [put, hc, Layout.symbol_write]

@[simp] theorem metadata_put (level : Level) (key : Key) (c : Char) :
    (put layout level key c).metadata = layout.metadata := by
  unfold put; split <;> simp

@[simp] theorem geometry_put (level : Level) (key : Key) (c : Char) :
    (put layout level key c).geometry = layout.geometry := by
  unfold put; split <;> simp

@[simp] theorem registry_put (level : Level) (key : Key) (c : Char) :
    (put layout level key c).registry = layout.registry := by
  unfold put; split <;> simp

/-- A symbol that is refused changes nothing; any other one is put. -/
theorem readSymbol_cases (key : Key) (layout : Layout) (c : Char) (level : Level) :
    (layout.Refuses c
        ∧ readSymbol key layout (c, level) = ⟨layout, some (.unregisteredDeadKey c key)⟩)
      ∨ (¬layout.Refuses c
        ∧ readSymbol key layout (c, level) = ⟨put layout level key c, none⟩) := by
  by_cases hb : c = blank
  · exact Or.inr ⟨hb ▸ Layout.not_refuses_blank, by simp [readSymbol, hb]⟩
  · rw [Layout.refuses_iff]
    by_cases hr : (Text.isMark c && !(layout.register c).isDeadKey c) = true
    · refine Or.inl ⟨by simpa using hr, by simp [readSymbol, hb, Layout.store, hr]⟩
    · refine Or.inr ⟨by simpa using hr, ?_⟩
      simp [readSymbol, hb, Layout.store, hr, Layout.write, put]

/-- The registry accepts the symbol: if it is a combining mark, then it is a dead key. -/
def Accepted (registry : Registry) (c : Char) : Prop :=
  c ≠ blank → Text.isMark c = true → (registry.deadKey? c).isSome = true

instance (registry : Registry) (c : Char) : Decidable (Accepted registry c) :=
  inferInstanceAs (Decidable (_ → _ → _))

/-- What the registry accepts is refused by no layout of it. -/
theorem Accepted.not_refuses {c : Char} (h : Accepted layout.registry c) :
    ¬layout.Refuses c := by
  intro hrefused
  by_cases hb : c = blank
  · exact Layout.not_refuses_blank (hb ▸ hrefused)
  · have hknown := h hb hrefused.isMark
    rw [hrefused.not_known] at hknown
    cases hknown

theorem readSymbol_of_accepted {registry : Registry} (h : layout.registry = registry) {c : Char}
    (hc : Accepted registry c) (key : Key) (level : Level) :
    readSymbol key layout (c, level) = ⟨put layout level key c, none⟩ := by
  subst h
  obtain ⟨hrefused, -⟩ | ⟨-, heq⟩ := readSymbol_cases key layout c level
  · exact absurd hrefused hc.not_refuses
  · exact heq

/-! ## Many items -/

section
variable {α : Type}

/-- A property of readings that every step passes on from a reading without fault holds of the
whole reading. -/
theorem readAll_reading_induction {step : Layout → α → Reading} {Q : Reading → Prop}
    {items : List α} (hstep : ∀ layout, ∀ item ∈ items, Q ⟨layout, none⟩ → Q (step layout item))
    (h : Q ⟨layout, none⟩) : Q (readAll step layout items) := by
  induction items generalizing layout with
  | nil => exact h
  | cons item rest ih =>
      have hfirst := hstep layout item (List.mem_cons_self ..) h
      simp only [readAll]
      split
      · rename_i hnone
        refine ih (fun l i hi => hstep l i (List.mem_cons_of_mem _ hi)) ?_
        rwa [← hnone]
      · exact hfirst

theorem fault?_eq_none_of_cons {step : Layout → α → Reading} {item : α} {rest : List α}
    (hok : (readAll step layout (item :: rest)).fault? = none) :
    (step layout item).fault? = none
      ∧ readAll step layout (item :: rest) = readAll step (step layout item).layout rest := by
  simp only [readAll] at hok ⊢
  cases hfirst : (step layout item).fault? with
  | none => exact ⟨rfl, rfl⟩
  | some fault =>
      simp only [hfirst] at hok
      cases hok

end

/-! ## One cell -/

/-- The rule of a cell. In the base pair a blank below stands for the base partner of the symbol
above it; any other blank above stands for the shift partner of the symbol below it. -/
def Cell.byRule : Pair → Cell → Cell
  | .base, ⟨' ', upper⟩ => ⟨basePartner upper, upper⟩
  | _, ⟨lower, ' '⟩ => ⟨lower, shiftPartner lower⟩
  | _, cell => cell

theorem Cell.symbols_eq_byRule (pair : Pair) (cell : Cell) :
    cell.symbols pair = cell.byRule pair := by
  obtain ⟨lower, upper⟩ := cell
  by_cases hlower : lower = ' ' <;> by_cases hupper : upper = ' ' <;>
    cases pair <;> simp [symbols, byRule, blank, hlower, hupper]

/-- Reads the two symbols of a cell into a pair of levels. -/
def readPair (pair : Pair) (key : Key) (layout : Layout) (symbols : Cell) : Reading :=
  readAll (readSymbol key) layout [(symbols.lower, pair.lower), (symbols.upper, pair.upper)]

/-- A cell is put as a whole, or its lower symbol is refused and nothing changes, or its upper
symbol is refused and the lower one stays. -/
theorem readPair_cases (pair : Pair) (key : Key) (layout : Layout) (s : Cell) :
    ((¬layout.Refuses s.lower ∧ ¬(put layout pair.lower key s.lower).Refuses s.upper)
        ∧ readPair pair key layout s =
          ⟨put (put layout pair.lower key s.lower) pair.upper key s.upper, none⟩)
      ∨ (layout.Refuses s.lower
        ∧ readPair pair key layout s = ⟨layout, some (.unregisteredDeadKey s.lower key)⟩)
      ∨ (¬layout.Refuses s.lower ∧ (put layout pair.lower key s.lower).Refuses s.upper)
        ∧ readPair pair key layout s =
          ⟨put layout pair.lower key s.lower, some (.unregisteredDeadKey s.upper key)⟩ := by
  obtain ⟨hrefused, hlower⟩ | ⟨htaken, hlower⟩ := readSymbol_cases key layout s.lower pair.lower
  · exact Or.inr (Or.inl ⟨hrefused, by simp [readPair, readAll, hlower]⟩)
  · obtain ⟨hrefused, hupper⟩ | ⟨htaken', hupper⟩ :=
      readSymbol_cases key (put layout pair.lower key s.lower) s.upper pair.upper
    · exact Or.inr (Or.inr ⟨⟨htaken, hrefused⟩, by simp [readPair, readAll, hlower, hupper]⟩)
    · exact Or.inl ⟨⟨htaken, htaken'⟩, by simp [readPair, readAll, hlower, hupper]⟩

/-- A cell says nothing about other keys. -/
theorem symbol_readPair_of_ne {pair : Pair} {key m : Key} (h : key ≠ m) (s : Cell)
    (level : Level) :
    (readPair pair key layout s).layout.symbol m level = layout.symbol m level := by
  rcases readPair_cases pair key layout s with ⟨-, heq⟩ | ⟨-, heq⟩ | ⟨-, heq⟩ <;>
    simp [heq, symbol_put, h]

/-- The key has the symbols at the levels of the pair; where one is blank, it has what it had
before. -/
def Stored (pair : Pair) (key : Key) (s : Cell) (before after : Layout) : Prop :=
  (after.symbol key pair.lower =
      if s.lower = blank then before.symbol key pair.lower else some s.lower)
    ∧ after.symbol key pair.upper =
      if s.upper = blank then before.symbol key pair.upper else some s.upper

theorem stored_readPair {pair : Pair} {key : Key} {s : Cell}
    (hok : (readPair pair key layout s).fault? = none) :
    Stored pair key s layout (readPair pair key layout s).layout := by
  have hlevels : pair.lower ≠ pair.upper := by cases pair <;> decide
  rcases readPair_cases pair key layout s with ⟨-, heq⟩ | ⟨-, heq⟩ | ⟨-, heq⟩ <;>
    rw [heq] at hok ⊢
  · simp only [Stored, symbol_put, hlevels, hlevels.symm, false_and, true_and, if_false, ne_eq,
      ite_not, and_self]
  · cases hok
  · cases hok

theorem mem_keys_of_mem_cells {row : Row} {pair : Pair} {item : Key × Nat}
    (h : item ∈ row.cells pair) : item.1 ∈ row.keys := by
  obtain ⟨⟨key, k⟩, hk, rfl⟩ := List.mem_map.mp h
  show key ∈ row.keys
  exact List.fst_mem_of_mem_zipIdx hk

/-- A property of readings holds of a whole reading if a fault for a missing place keeps it and so
does the reading of any cell of the rows' keys. -/
theorem read_induction {lines : List Text} {rows : List Row} {pair : Pair} {Q : Reading → Prop}
    (hmissing : ∀ layout key line column, Q ⟨layout, none⟩ → Q (missing layout key line column))
    (hcell : ∀ layout, ∀ key ∈ rows.flatMap (·.keys), ∀ cell, Q ⟨layout, none⟩ →
      Q (readPair pair key layout (Cell.symbols pair cell)))
    (h : Q ⟨layout, none⟩) : Q (read layout lines rows pair) := by
  refine readAll_reading_induction (fun layout row hrow hQ => ?_) h
  unfold readRow
  split
  · exact hQ
  · split
    · exact hmissing _ _ _ _ hQ
    · exact hmissing _ _ _ _ hQ
    · refine readAll_reading_induction (fun layout item hitem hQ => ?_) hQ
      unfold readCell
      split
      · refine hcell _ _ (List.mem_flatMap.mpr ⟨row.1, ?_, mem_keys_of_mem_cells hitem⟩) _ hQ
        exact List.fst_mem_of_mem_zipIdx hrow
      · exact hmissing _ _ _ _ hQ

/-- A reading changes neither what the layout is called nor what it is read with. -/
theorem frame_read (layout : Layout) (lines : List Text) (rows : List Row) (pair : Pair) :
    (read layout lines rows pair).layout.metadata = layout.metadata
      ∧ (read layout lines rows pair).layout.geometry = layout.geometry
      ∧ (read layout lines rows pair).layout.registry = layout.registry := by
  refine read_induction (Q := fun r => r.layout.metadata = layout.metadata
    ∧ r.layout.geometry = layout.geometry ∧ r.layout.registry = layout.registry)
    (fun _ _ _ _ h => h) (fun l key _ cell h => ?_) ⟨rfl, rfl, rfl⟩
  obtain ⟨-, heq⟩ | ⟨-, heq⟩ | ⟨-, heq⟩ :=
    readPair_cases pair key l (Cell.symbols pair cell) <;> rw [heq] <;> simpa using h

end Drawing

end KeyboardLayout
