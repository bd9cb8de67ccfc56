import KeyboardLayout.Proofs.DeadKeys
import Mathlib.Data.List.Induction

/-!
# The order of the dead keys

A layout notes a dead key when it meets its marker for the first time. `Layout.Ordered` says so of
the symbols met so far; one symbol keeps it (`Ordered.register`), hence so does a reading. The dead
keys of a drawn layout are thus known from its symbols alone, in the order in which a source draws
them (`Drawn.deadKeys_eq`). `markers_of_ofText` says so of their markers, place by place.
-/

namespace KeyboardLayout

variable {layout : Layout} {registry : Registry} {seen : List Char}

namespace Layout

/-! ## One symbol -/

/-- The dead keys are those among the symbols seen so far, each where it was first seen. -/
def Ordered (layout : Layout) (seen : List Char) : Prop :=
  layout.deadKeys = (seen.filterMap layout.registry.deadKey?).eraseDups

theorem eraseDups_concat {α : Type} [BEq α] [LawfulBEq α] (items : List α) (item : α) :
    (items ++ [item]).eraseDups =
      if item ∈ items then items.eraseDups else items.eraseDups ++ [item] := by
  rw [List.eraseDups_append]
  by_cases h : item ∈ items <;> simp [List.removeAll, h, List.eraseDups_cons]

theorem Ordered.isDeadKey_iff (h : layout.Ordered seen) {c : Char} {dk : DeadKey}
    (hdk : layout.registry.deadKey? c = some dk) :
    layout.isDeadKey c = true ↔ dk ∈ seen.filterMap layout.registry.deadKey? := by
  rw [Layout.isDeadKey_iff, h, List.mem_map]
  constructor
  · rintro ⟨known, hknown, rfl⟩
    rw [List.mem_eraseDups] at hknown
    obtain ⟨d, -, hd⟩ := List.mem_filterMap.mp hknown
    rw [Registry.marker_of_deadKey? hd, hd, Option.some.injEq] at hdk
    exact hdk ▸ hknown
  · intro hmem
    exact ⟨dk, List.mem_eraseDups.mpr hmem, Registry.marker_of_deadKey? hdk⟩

/-- A symbol is noted behind all others, unless it was noted before. -/
theorem Ordered.register (h : layout.Ordered seen) (c : Char) :
    (layout.register c).Ordered (seen ++ [c]) := by
  unfold Ordered
  have hone : ∀ found, layout.registry.deadKey? c = found →
      [c].filterMap layout.registry.deadKey? = found.toList := by
    rintro found rfl
    cases hdk : layout.registry.deadKey? c <;> simp [hdk]
  rw [registry_register, List.filterMap_append]
  obtain ⟨heq, hor⟩ | ⟨dk, hnew, hdk, heq⟩ := layout.register_cases c
  · rw [heq]
    cases hdk : layout.registry.deadKey? c with
    | none => simpa [Ordered, hdk] using h
    | some dk =>
        have hdead : layout.isDeadKey c = true := by
          rcases hor with hdead | hnone
          · exact hdead
          · rw [hdk] at hnone
            cases hnone
        have hmem := (h.isDeadKey_iff hdk).mp hdead
        rw [hone _ hdk, Option.toList_some, eraseDups_concat, if_pos hmem]
        exact h
  · have hmem : dk ∉ seen.filterMap layout.registry.deadKey? := by
      rw [← h.isDeadKey_iff hdk, hnew]
      exact Bool.false_ne_true
    rw [heq, hone _ hdk, Option.toList_some, eraseDups_concat, if_neg hmem, ← h]

end Layout

namespace Drawing

open Layout (Ordered)

/-- The symbols read for a key that say something. -/
def Finding.typed (finding : Finding) : List Char :=
  [finding.symbols.lower, finding.symbols.upper].filter (· ≠ blank)

theorem ordered_put (h : layout.Ordered seen) (level : Level) (key : Key) (c : Char) :
    (put layout level key c).Ordered (seen ++ [c].filter (· ≠ blank)) := by
  by_cases hc : c = blank
  · simpa [hc] using h
  · rw [put_of_ne hc, List.filter_cons_of_pos (by simpa using hc), List.filter_nil]
    unfold Ordered
    rw [Layout.deadKeys_write, Layout.registry_write]
    simpa [Ordered] using h.register c

theorem ordered_readFinding (h : layout.Ordered seen) {finding : Finding}
    (hok : (readFinding layout finding).fault? = none) :
    (readFinding layout finding).layout.Ordered (seen ++ finding.typed) := by
  obtain ⟨pair, key, s⟩ := finding
  unfold readFinding at hok ⊢
  obtain ⟨-, heq⟩ | ⟨-, heq⟩ | ⟨-, heq⟩ := readPair_cases pair key layout s <;>
    simp only [heq] at hok ⊢
  · have := ordered_put (ordered_put h pair.lower key s.lower) pair.upper key s.upper
    rw [List.append_assoc, ← List.filter_append] at this
    exact this
  · cases hok
  · cases hok

theorem ordered_readAll {findings : List Finding} (h : layout.Ordered seen)
    (hok : (readAll readFinding layout findings).fault? = none) :
    (readAll readFinding layout findings).layout.Ordered (seen ++ findings.flatMap (·.typed)) := by
  induction findings generalizing layout seen with
  | nil => simpa [readAll] using h
  | cons finding rest ih =>
      obtain ⟨hfirst, heq⟩ := fault?_eq_none_of_cons hok
      rw [heq] at hok ⊢
      rw [List.flatMap_cons, ← List.append_assoc]
      exact ih (ordered_readFinding h hfirst) hok

end Drawing

namespace Layout

/-! ## Drawn layouts -/

/-- The symbols of the layout, in the order in which a source draws them. -/
def typed (layout : Layout) : List Char :=
  layout.geometry.slots.flatMap fun slot =>
    [slot.1.lower, slot.1.upper].filterMap (layout.symbol slot.2)

theorem typed_findingOf (h : layout.Orderly) (slot : Pair × Key) :
    (Drawing.findingOf layout slot).typed =
      [slot.1.lower, slot.1.upper].filterMap (layout.symbol slot.2) := by
  have hshown : ∀ level, [Drawing.shown layout slot.2 level].filter (· ≠ blank) =
      [level].filterMap (layout.symbol slot.2) := by
    intro level
    unfold Drawing.shown
    have := h.symbol_ne_blank slot.2 level
    cases hc : layout.symbol slot.2 level with
    | none => simp [hc]
    | some c =>
        have hne : c ≠ blank := fun heq => this (heq ▸ hc)
        simp [hc, hne]
  calc (Drawing.findingOf layout slot).typed
      = [Drawing.shown layout slot.2 slot.1.lower].filter (· ≠ blank)
          ++ [Drawing.shown layout slot.2 slot.1.upper].filter (· ≠ blank) :=
        List.filter_append [Drawing.shown layout slot.2 slot.1.lower] _
    _ = [slot.1.lower].filterMap (layout.symbol slot.2)
          ++ [slot.1.upper].filterMap (layout.symbol slot.2) := by rw [hshown, hshown]
    _ = [slot.1.lower, slot.1.upper].filterMap (layout.symbol slot.2) :=
        List.filterMap_append.symm

/-- The dead keys of a drawn layout are those that its symbols stand for, in the order of their
first use. -/
theorem Drawn.deadKeys_eq (h : layout.Drawn registry) (hkeys : layout.geometry.keys.Nodup) :
    layout.deadKeys = (layout.typed.filterMap registry.deadKey?).eraseDups := by
  obtain ⟨-, hread⟩ := h.readAll_findingOf hkeys
  have hempty : (empty layout.metadata layout.geometry registry).Ordered [] := rfl
  have := Drawing.ordered_readAll hempty (congrArg Drawing.Reading.fault? hread)
  rw [hread, List.nil_append, List.flatMap_map] at this
  simp only [typed_findingOf h.orderly] at this
  rw [← h.registry_eq]
  exact this

/-! ## Markers in order -/

theorem pairwise_idxOf_eraseDups {α : Type} [BEq α] [LawfulBEq α] (items : List α) :
    items.eraseDups.Pairwise fun a b => items.idxOf a < items.idxOf b := by
  induction items using List.reverseRecOn with
  | nil => exact List.Pairwise.nil
  | append_singleton items item ih =>
      -- What was seen before the last item keeps its first place.
      have hold : items.eraseDups.Pairwise fun a b =>
          (items ++ [item]).idxOf a < (items ++ [item]).idxOf b := by
        refine ih.imp_of_mem fun {a b} ha hb hlt => ?_
        rw [List.mem_eraseDups] at ha hb
        rw [List.idxOf_append, List.idxOf_append, if_pos ha, if_pos hb]
        exact hlt
      rw [eraseDups_concat]
      split
      · exact hold
      · rename_i hitem
        refine List.pairwise_append.mpr ⟨hold, List.pairwise_singleton .., fun a ha b hb => ?_⟩
        obtain rfl := List.mem_singleton.mp hb
        rw [List.mem_eraseDups] at ha
        rw [List.idxOf_append, List.idxOf_append, if_pos ha, if_neg hitem]
        have := List.idxOf_lt_length_of_mem ha
        omega

/-- The markers of the first of the dead keys are the first of the markers. -/
theorem map_marker_eraseDups (registry : Registry) (seen : List Char) :
    (seen.filterMap registry.deadKey?).eraseDups.map (·.marker) =
      seen.eraseDups.filter fun c => (registry.deadKey? c).isSome := by
  induction seen using List.reverseRecOn with
  | nil => rfl
  | append_singleton seen c ih =>
      rw [List.filterMap_append, eraseDups_concat]
      cases hdk : registry.deadKey? c with
      | none => split <;> simp [hdk, ih]
      | some dk =>
          have hmem : dk ∈ seen.filterMap registry.deadKey? ↔ c ∈ seen := by
            rw [List.mem_filterMap]
            refine ⟨fun ⟨d, hd, heq⟩ => ?_, fun hc => ⟨c, hc, hdk⟩⟩
            rw [← Registry.marker_of_deadKey? hdk, Registry.marker_of_deadKey? heq]
            exact hd
          simp only [List.filterMap_cons, List.filterMap_nil, hdk, eraseDups_concat, hmem]
          split
          · exact ih
          · simp [ih, hdk, Registry.marker_of_deadKey? hdk]

/-- Every symbol of a drawn layout has been typed. -/
theorem Drawn.mem_typed_iff (h : layout.Drawn registry) {c : Char} :
    c ∈ layout.typed ↔ ∃ key level, layout.symbol key level = some c := by
  simp only [typed, List.mem_flatMap, List.mem_filterMap]
  constructor
  · rintro ⟨⟨pair, key⟩, -, level, -, hc⟩
    exact ⟨key, level, hc⟩
  · rintro ⟨key, level, hc⟩
    have hkey : key ∈ layout.geometry.keys := by
      by_contra hkey
      have hblank : Drawing.shownPair layout level.pair key = Drawing.Cell.empty :=
        h.shownPair_of_not_mem hkey
      have hshown : Drawing.shown layout key level = blank := by
        cases level with
        | base | deadKey | altGr => exact congrArg Drawing.Cell.lower hblank
        | shift | deadKeyShift | altGrShift => exact congrArg Drawing.Cell.upper hblank
      rw [Drawing.shown, hc, Option.getD_some] at hshown
      exact h.orderly.symbol_ne_blank key level (hshown ▸ hc)
    refine ⟨(level.pair, key), Geometry.mem_slots.mpr hkey, level, ?_, hc⟩
    cases level <;> simp [Level.pair, Pair.lower, Pair.upper]

/-- **The dead keys of a layout** from a text, on a board without repeated keys, are those that its
symbols stand for, each once, in the order in which the source first draws them. -/
theorem markers_of_ofText {t : Text} (h : ofText registry t = .ok layout)
    (hkeys : layout.geometry.keys.Nodup) :
    (∀ c, c ∈ layout.deadKeys.map (·.marker) ↔
        (registry.deadKey? c).isSome = true ∧ ∃ key level, layout.symbol key level = some c)
      ∧ (layout.deadKeys.map (·.marker)).Nodup
      ∧ (layout.deadKeys.map (·.marker)).Pairwise fun a b =>
          layout.typed.idxOf a < layout.typed.idxOf b := by
  obtain ⟨drawn, hdrawn, rfl⟩ := drawn_of_ofText h
  have hmarkers : drawn.complete.deadKeys.map (·.marker) =
      drawn.typed.eraseDups.filter fun c => (registry.deadKey? c).isSome := by
    rw [map_marker_complete, hdrawn.deadKeys_eq hkeys, map_marker_eraseDups]
  rw [hmarkers]
  have hordered := (pairwise_idxOf_eraseDups drawn.typed).sublist
    (List.filter_sublist (p := fun c => (registry.deadKey? c).isSome))
  refine ⟨fun c => ?_, hordered.imp fun hlt heq => ?_, hordered⟩
  · rw [List.mem_filter, List.mem_eraseDups, hdrawn.mem_typed_iff, and_comm]
    rfl
  · rw [heq] at hlt
    exact Nat.lt_irrefl _ hlt

/-- The acute accent of the second key comes before the grave accent of the first, which is drawn
in the dead-key pair. -/
theorem markers_of_ofText_accents :
    ∃ layout, ofText Registry.builtin (sketch [(5, 8, 'a'), (5, 10, '\u0300'), (5, 14, '\u0301')]
        [(5, 10, '\u0301')]) = .ok layout
      ∧ layout.geometry.keys.Nodup
      ∧ layout.deadKeys.map (·.marker) = ['\u0301', '\u0300']
      ∧ layout.typed.idxOf '\u0301' < layout.typed.idxOf '\u0300'
      ∧ ∃ key level, layout.symbol key level = some '\u0300' := by
  obtain ⟨layout, h, hchecked⟩ := exists_of_any_toOption Registry.builtin
    (sketch [(5, 8, 'a'), (5, 10, '\u0300'), (5, 14, '\u0301')] [(5, 10, '\u0301')])
    (fun layout => decide layout.geometry.keys.Nodup
      && layout.deadKeys.map (·.marker) == ['\u0301', '\u0300'])
    (by decide +kernel)
  simp only [Bool.and_eq_true, decide_eq_true_eq, beq_iff_eq] at hchecked
  obtain ⟨hkeys, hmarkers⟩ := hchecked
  obtain ⟨hmem, -, horder⟩ := markers_of_ofText h hkeys
  refine ⟨layout, h, hkeys, hmarkers, ?_, ?_⟩
  · rw [hmarkers] at horder
    exact (List.pairwise_cons.mp horder).1 _ (List.mem_singleton.mpr rfl)
  · exact ((hmem '\u0300').mp (by simp [hmarkers])).2

end Layout

end KeyboardLayout
