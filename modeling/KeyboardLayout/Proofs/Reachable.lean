import KeyboardLayout.Proofs.Cells
import KeyboardLayout.Proofs.Reading
import KeyboardLayout.Registry.Builtin

/-!
# What holds of every layout that drawings can build

A layout starts empty and changes only by readings, each of which may end with a fault in the
middle of a cell. `Layout.Orderly` is what survives even that: every single symbol put into the
layout keeps the dead keys and the stored symbols in step, and no cell puts a shifted base symbol
over nothing. `Layout.Derived` is what the readings without a fault add. Both are shown for one
cell and carried to a run by `read_induction` (`reached_invariants`).
-/

namespace KeyboardLayout

namespace Layout

/-- Layouts that drawings build from the empty one: `faultless` says that no reading met a
fault. -/
inductive Reached (registry : Registry) : (faultless : Bool) → Layout → Prop
  | new {metadata : Metadata} {geometry : Text} {layout : Layout} :
      new metadata geometry registry = .ok layout → Reached registry true layout
  | read {faultless : Bool} {layout : Layout} (lines : List Text) (rows : List Row) (pair : Pair) :
      Reached registry faultless layout →
      Reached registry (faultless && (Drawing.read layout lines rows pair).fault?.isNone)
        (Drawing.read layout lines rows pair).layout

/-- The dead keys are the registry's, each once, and every stored symbol that could be one is
one. -/
structure Noted (layout : Layout) : Prop where
  symbol_ne_blank : ∀ key level, layout.symbol key level ≠ some blank
  noted : ∀ key level c, layout.symbol key level = some c →
    (layout.registry.deadKey? c).isSome = true ∨ Text.isMark c = true → layout.isDeadKey c = true
  known : ∀ dk ∈ layout.deadKeys, layout.registry.deadKey? dk.marker = some dk
  nodup : (layout.deadKeys.map (·.marker)).Nodup

/-- What readings keep, with or without a fault. -/
structure Orderly (layout : Layout) : Prop extends Noted layout where
  base_of_shift : ∀ key, (layout.symbol key .shift).isSome = true →
    (layout.symbol key .base).isSome = true

/-- What readings without a fault keep: no key lacks an upper symbol that could be derived. -/
def Derived (layout : Layout) : Prop :=
  ∀ pair key c, layout.symbol key (Pair.lower pair) = some c →
    layout.symbol key (Pair.upper pair) = none → shiftPartner c = blank

/-! ## The empty layout -/

variable {layout : Layout} {metadata : Metadata} {geometry : Geometry} {registry : Registry}

@[simp] theorem symbol_empty (key : Key) (level : Level) :
    (empty metadata geometry registry).symbol key level = none := by
  simp [symbol, layer, empty]

theorem orderly_empty : (empty metadata geometry registry).Orderly where
  symbol_ne_blank := by simp
  noted := by simp
  known := by simp [empty]
  nodup := by simp [empty]
  base_of_shift := by simp

theorem derived_empty : (empty metadata geometry registry).Derived := by
  simp [Derived]

theorem eq_empty_of_new {name : Text} (h : new metadata name registry = .ok layout) :
    ∃ geometry, registry.geometry name = .ok geometry
      ∧ layout = empty metadata geometry registry := by
  unfold new at h
  cases hg : registry.geometry name with
  | error fault => rw [hg] at h; cases h
  | ok geometry =>
      rw [hg] at h
      exact ⟨geometry, rfl, (Except.ok.inj h).symm⟩

/-! ## One symbol -/

/-- Noting a symbol keeps the dead keys the registry's own, each once. -/
theorem Noted.register (h : layout.Noted) (c : Char) : (layout.register c).Noted := by
  obtain ⟨heq, -⟩ | ⟨dk, hnew, hdk, heq⟩ := layout.register_cases c
  · rwa [heq]
  · have hm := Registry.marker_of_deadKey? hdk
    have hdead : ∀ d, layout.isDeadKey d = true → (layout.register c).isDeadKey d = true :=
      fun d hd => (layout.isDeadKey_register c d).mpr (Or.inl hd)
    refine ⟨by simpa using h.symbol_ne_blank, ?_, ?_, ?_⟩
    · intro key level d hd hor
      rw [symbol_register] at hd
      rw [registry_register] at hor
      exact hdead d (h.noted key level d hd hor)
    · intro dk' hmem
      rw [registry_register]
      rw [heq, List.mem_append, List.mem_singleton] at hmem
      rcases hmem with hmem | rfl
      · exact h.known dk' hmem
      · rw [hm]; exact hdk
    · rw [heq, List.map_append, List.nodup_append]
      refine ⟨h.nodup, by simp, ?_⟩
      intro a ha b hb hab
      obtain rfl : b = c := by simpa [hm] using hb
      have := isDeadKey_iff.mpr (hab ▸ ha)
      rw [hnew] at this
      cases this

/-- Putting a symbol that is accepted keeps the dead keys and the symbols in step. -/
theorem Noted.put (h : layout.Noted) {level : Level} {key : Key} {c : Char}
    (hc : ¬layout.Refuses c) :
    (Drawing.put layout level key c).Noted := by
  by_cases hb : c = blank
  · simpa [hb] using h
  rw [Drawing.put_of_ne hb]
  have hr := h.register c
  refine ⟨?_, ?_, by simpa using hr.known, by simpa using hr.nodup⟩
  · intro k l
    rw [symbol_write]
    split
    · simpa using hb
    · exact h.symbol_ne_blank k l
  · intro k l d hd hor
    rw [isDeadKey_write]
    rw [registry_write] at hor
    rw [symbol_write] at hd
    split at hd
    · obtain rfl := Option.some.inj hd
      rcases hor with hsome | hm
      · exact (layout.isDeadKey_register c c).mpr (Or.inr ⟨rfl, hsome⟩)
      · exact isDeadKey_register_of_not_refuses hc hm
    · exact hr.noted k l d (by simpa using hd) (by simpa using hor)

theorem noted_readSymbol (h : layout.Noted) (key : Key) (item : Char × Level) :
    (Drawing.readSymbol key layout item).layout.Noted := by
  obtain ⟨-, heq⟩ | ⟨hc, heq⟩ := Drawing.readSymbol_cases key layout item.1 item.2
  · rwa [heq]
  · rw [heq]; exact h.put hc

/-! ## One cell -/

theorem noted_readPair (h : layout.Noted) (pair : Pair) (key : Key) (s : Drawing.Cell) :
    (Drawing.readPair pair key layout s).layout.Noted :=
  Drawing.readAll_reading_induction (Q := fun r => r.layout.Noted)
    (fun _ item _ hl => noted_readSymbol hl key item) h

/-- The lower symbol of a cell is put first, and where a shifted base symbol follows, it is not
blank. -/
theorem base_of_shift_readPair {pair : Pair} {s : Drawing.Cell} (hs : s.Derived pair)
    (h : ∀ key, (layout.symbol key .shift).isSome = true →
      (layout.symbol key .base).isSome = true) (key m : Key)
    (hm : ((Drawing.readPair pair key layout s).layout.symbol m .shift).isSome = true) :
    ((Drawing.readPair pair key layout s).layout.symbol m .base).isSome = true := by
  obtain ⟨-, heq⟩ | ⟨-, heq⟩ | ⟨-, heq⟩ := Drawing.readPair_cases pair key layout s <;>
    rw [heq] at hm ⊢
  · have hl := hs.base_derived
    have := h m
    simp only [Drawing.symbol_put] at hm ⊢
    cases pair <;> grind [Pair.lower, Pair.upper]
  · exact h m hm
  · have := h m
    simp only [Drawing.symbol_put] at hm ⊢
    cases pair <;> grind [Pair.lower]

/-- A cell that is put as a whole leaves no upper symbol out. -/
theorem derived_readPair {pair : Pair} {s : Drawing.Cell} (hs : s.Derived pair)
    (h : layout.Derived) {key : Key}
    (hok : (Drawing.readPair pair key layout s).fault? = none) :
    (Drawing.readPair pair key layout s).layout.Derived := by
  obtain ⟨-, heq⟩ | ⟨-, heq⟩ | ⟨-, heq⟩ := Drawing.readPair_cases pair key layout s <;>
    rw [heq] at hok ⊢
  · intro p m c hl hu
    have := h p m c
    have := hs.shift_derived
    simp only [Drawing.symbol_put] at hl hu
    cases pair <;> cases p <;> grind [Pair.lower, Pair.upper]
  · cases hok
  · cases hok

/-! ## Whole readings -/

variable {lines : List Text} {rows : List Row} {pair : Pair}

theorem orderly_read (h : layout.Orderly) : (Drawing.read layout lines rows pair).layout.Orderly :=
  Drawing.read_induction (Q := fun r => r.layout.Orderly) (fun _ _ _ _ hl => hl)
    (fun _ key _ cell hl => ⟨noted_readPair hl.toNoted pair key _, fun m =>
      base_of_shift_readPair (Drawing.Cell.derived_symbols pair cell) hl.base_of_shift key m⟩) h

theorem derived_read (h : layout.Derived)
    (hok : (Drawing.read layout lines rows pair).fault? = none) :
    (Drawing.read layout lines rows pair).layout.Derived :=
  Drawing.read_induction (Q := fun r => r.fault? = none → r.layout.Derived)
    (fun _ _ _ _ _ hfault => nomatch hfault)
    (fun _ _ _ cell hl => derived_readPair (Drawing.Cell.derived_symbols pair cell) (hl rfl))
    (fun _ => h) hok

theorem registry_of_reached {faultless : Bool} (h : Reached registry faultless layout) :
    layout.registry = registry := by
  induction h with
  | new hnew =>
      obtain ⟨geometry, -, rfl⟩ := eq_empty_of_new hnew
      rfl
  | read lines rows pair _ ih => exact (Drawing.frame_read ..).2.2.trans ih

theorem orderly_of_reached {faultless : Bool} (h : Reached registry faultless layout) :
    layout.Orderly := by
  induction h with
  | new hnew =>
      obtain ⟨geometry, -, rfl⟩ := eq_empty_of_new hnew
      exact orderly_empty
  | read lines rows pair _ ih => exact orderly_read ih

theorem derived_of_reached {faultless : Bool} (h : Reached registry faultless layout)
    (hok : faultless = true) : layout.Derived := by
  induction h with
  | new hnew =>
      obtain ⟨geometry, -, rfl⟩ := eq_empty_of_new hnew
      exact derived_empty
  | read lines rows pair _ ih =>
      rw [Bool.and_eq_true, Option.isNone_iff_eq_none] at hok
      exact derived_read (ih hok.1) hok.2

/-- **What every reachable layout satisfies**, whatever was drawn and wherever a reading broke
off: no layer stores the blank; a stored marker or combining mark is a dead key of the layout, and
the dead keys are the registry's own, each once; and no key has a shift symbol without a base
symbol. If no reading broke off, then moreover a key without an upper symbol has none that could be
derived from its lower one. -/
theorem reached_invariants {faultless : Bool} (h : Reached registry faultless layout) :
    (∀ key level, layout.symbol key level ≠ some blank)
      ∧ ((∀ key level c, layout.symbol key level = some c →
            (registry.deadKey? c).isSome = true ∨ Text.isMark c = true →
            layout.isDeadKey c = true)
        ∧ (∀ dk ∈ layout.deadKeys, registry.deadKey? dk.marker = some dk)
        ∧ (layout.deadKeys.map (·.marker)).Nodup)
      ∧ (∀ key, (layout.symbol key .shift).isSome = true →
          (layout.symbol key .base).isSome = true)
      ∧ (faultless = true → ∀ (pair : Pair) (key : Key) (b : Char),
          layout.symbol key pair.lower = some b → layout.symbol key pair.upper = none →
            shiftPartner b = blank) := by
  have hord := orderly_of_reached h
  have hreg := registry_of_reached h
  refine ⟨hord.symbol_ne_blank, ⟨?_, ?_, hord.nodup⟩, hord.base_of_shift,
    derived_of_reached h⟩
  · simpa [hreg] using hord.noted
  · simpa [hreg] using hord.known

/-- A reading that breaks off at the upper symbol of its second cell. -/
def brokenOff : Drawing.Reading :=
  Drawing.read (empty {} Registry.Builtin.ergo Registry.builtin)
    [[], "A     \u0345".toList, "\u0301     e".toList] [⟨0, [.ad01, .ad02]⟩] .base

/-- It keeps the first cell and the lower symbol of the second. -/
theorem reached_invariants_brokenOff :
    Reached Registry.builtin false brokenOff.layout
      ∧ brokenOff.layout.symbol .ad02 .base = some 'e'
      ∧ brokenOff.layout.symbol .ad02 .shift = none
      ∧ brokenOff.layout.isDeadKey '\u0301' = true := by
  have hnew : new {} "ERGO".toList Registry.builtin
      = .ok (empty {} Registry.Builtin.ergo Registry.builtin) := rfl
  have hfault : brokenOff.fault?.isNone = false := by decide
  have h : Reached Registry.builtin (true && brokenOff.fault?.isNone) brokenOff.layout :=
    .read _ _ _ (.new hnew)
  rw [hfault] at h
  refine ⟨h, by decide, by decide, ?_⟩
  have hstored : brokenOff.layout.symbol .ad01 .base = some '\u0301' := by decide
  exact (reached_invariants h).2.1.1 .ad01 .base '\u0301' hstored (Or.inr (by decide))

end Layout

end KeyboardLayout
