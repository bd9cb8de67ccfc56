import KeyboardLayout.Proofs.Sources
import Mathlib.Data.List.Nodup

/-!
# The dead keys of a layout

Completing a layout gives its dead keys their tables and leaves everything else of them alone. On
the built-in registry the dead keys of a layout can be told apart by their markers and by their
names, none is called as the state without a dead key, and the two columns of every table are
equally long (`Keyed`), so that a dead key combines with exactly the characters that it has a
result for (`combinesWith_iff`).
-/

namespace KeyboardLayout

namespace DeadKey

variable {dk : DeadKey} {c : Char}

/-- The two columns of the table are equally long. -/
def Aligned (dk : DeadKey) : Prop :=
  dk.base.length = dk.alt.length

theorem aligned_withPairs (rows : List (Char × Char)) : (dk.withPairs rows).Aligned := by
  simp [Aligned, withPairs]

/-- A dead key with an aligned table combines with what it has a result for. -/
theorem combinesWith_iff (h : dk.Aligned) :
    dk.combinesWith c = true ↔ (dk.result? c).isSome = true := by
  unfold combinesWith result?
  cases hi : dk.base.findIdx? (· == c) with
  | none =>
      rw [List.findIdx?_eq_none_iff] at hi
      simp only [Option.bind_none, Option.isSome_none, Bool.false_eq_true, iff_false]
      intro hmem
      simpa using hi c (List.contains_iff_mem.mp hmem)
  | some i =>
      obtain ⟨hlt, hc, -⟩ := List.findIdx?_eq_some_iff_getElem.mp hi
      have halt : i < dk.alt.length := h ▸ hlt
      simp only [Option.bind_some, List.getElem?_eq_getElem halt, Option.isSome_some, iff_true]
      rw [List.contains_iff_mem, ← eq_of_beq hc]
      exact List.getElem_mem hlt

/-- A dead key composes with the first row of its table that starts with the character. -/
theorem result?_eq_lookup (dk : DeadKey) (c : Char) : dk.result? c = dk.pairs.lookup c := by
  have hcolumns : ∀ bases alts : List Char,
      (bases.findIdx? (· == c)).bind (alts[·]?) = (bases.zip alts).lookup c := by
    intro bases
    induction bases with
    | nil => intro alts; rfl
    | cons base bases ih =>
        intro alts
        cases alts with
        | nil => simp
        | cons alt alts =>
            rw [List.findIdx?_cons, List.zip_cons_cons, List.lookup_cons, ← ih]
            by_cases h : c = base
            · simp [h]
            · simp [beq_false_of_ne h, Ne.symm h, Option.bind_map]
  exact hcolumns dk.base dk.alt

end DeadKey

namespace Layout

variable {layout : Layout} {dk : DeadKey} {c : Char}

/-! ## Completing dead keys -/

@[simp] theorem marker_completeDeadKey : (layout.completeDeadKey dk).marker = dk.marker := by
  unfold completeDeadKey; split <;> rfl

@[simp] theorem name_completeDeadKey : (layout.completeDeadKey dk).name = dk.name := by
  unfold completeDeadKey; split <;> rfl

@[simp] theorem xkbSymbol_completeDeadKey :
    (layout.completeDeadKey dk).xkbSymbol = dk.xkbSymbol := by
  unfold completeDeadKey; split <;> rfl

@[simp] theorem glyph_completeDeadKey : (layout.completeDeadKey dk).glyph = dk.glyph := by
  unfold completeDeadKey; split <;> rfl

@[simp] theorem altSpace_completeDeadKey : (layout.completeDeadKey dk).altSpace = dk.altSpace := by
  unfold completeDeadKey; split <;> rfl

@[simp] theorem altSelf_completeDeadKey : (layout.completeDeadKey dk).altSelf = dk.altSelf := by
  unfold completeDeadKey; split <;> rfl

theorem aligned_completeDeadKey : (layout.completeDeadKey dk).Aligned := by
  unfold completeDeadKey; split <;> exact DeadKey.aligned_withPairs _

theorem symbolPair?_eq_some_iff {start final : Level} {key : Key} {pair : Char × Char} :
    layout.symbolPair? start final key = some pair ↔
      layout.symbol key start = some pair.1 ∧ layout.symbol key final = some pair.2 := by
  obtain ⟨base, alt⟩ := pair
  unfold symbolPair?
  cases layout.symbol key start <;> cases layout.symbol key final <;> simp

theorem map_marker_complete :
    layout.complete.deadKeys.map (·.marker) = layout.deadKeys.map (·.marker) := by
  simp [complete]

theorem map_name_complete :
    layout.complete.deadKeys.map (·.name) = layout.deadKeys.map (·.name) := by
  simp [complete]

@[simp] theorem isDeadKey_complete : layout.complete.isDeadKey c = layout.isDeadKey c := by
  rw [Bool.eq_iff_iff, isDeadKey_iff, isDeadKey_iff, map_marker_complete]

theorem deadKey?_complete :
    layout.complete.deadKey? c = (layout.deadKey? c).map layout.completeDeadKey := by
  unfold deadKey? complete
  rw [List.find?_map]
  simp only [Function.comp_def, marker_completeDeadKey]

/-- A stored symbol is a dead key of the layout if it is one of the registry. -/
theorem Noted.deadKey?_eq (h : layout.Noted) {key : Key} {level : Level}
    (hc : layout.symbol key level = some c) : layout.deadKey? c = layout.registry.deadKey? c := by
  have hmem : ∀ found, layout.deadKey? c = some found →
      layout.registry.deadKey? c = some found := by
    intro found hfound
    obtain ⟨hin, rfl⟩ := mem_of_deadKey? hfound
    exact h.known found hin
  cases hdk : layout.deadKey? c with
  | some found => exact (hmem found hdk).symm
  | none =>
      cases hregistry : layout.registry.deadKey? c with
      | none => rfl
      | some found =>
          have hdead := h.noted key level c hc (Or.inl (by rw [hregistry]; rfl))
          rw [isDeadKey, hdk] at hdead
          cases hdead

/-- What a completed layout knows of a stored symbol is known from the registry, but for tables. -/
theorem Drawn.deadKey?_complete {registry : Registry} (h : layout.Drawn registry) {key : Key}
    {level : Level} (hc : layout.symbol key level = some c) :
    layout.complete.deadKey? c = (registry.deadKey? c).map layout.completeDeadKey := by
  rw [Layout.deadKey?_complete, h.orderly.toNoted.deadKey?_eq hc, h.registry_eq]

/-! ## Telling dead keys apart -/

/-- The dead keys of the layout can be told apart and have complete tables. -/
structure Keyed (layout : Layout) : Prop where
  nodup_markers : (layout.deadKeys.map (·.marker)).Nodup
  nodup_names : (layout.deadKeys.map (·.name)).Nodup
  name_ne_none : ∀ dk ∈ layout.deadKeys, dk.name ≠ "none".toList
  quote_not_mem_name : ∀ dk ∈ layout.deadKeys, '"' ∉ dk.name
  aligned : ∀ dk ∈ layout.deadKeys, dk.Aligned
  /-- No marker is the uppercase of another character. -/
  eq_of_upper : ∀ c d, singleUpper? c = some d → layout.isDeadKey d = true → d = c

theorem Keyed.eq_of_name (h : layout.Keyed) {other : DeadKey} (hdk : dk ∈ layout.deadKeys)
    (hother : other ∈ layout.deadKeys) (hname : dk.name = other.name) : dk = other :=
  List.inj_on_of_nodup_map h.nodup_names hdk hother hname

/-- A dead key is found by its marker. -/
theorem Keyed.deadKey?_marker (h : layout.Keyed) (hdk : dk ∈ layout.deadKeys) :
    layout.deadKey? dk.marker = some dk := by
  have hdead : layout.isDeadKey dk.marker = true :=
    isDeadKey_iff.mpr (List.mem_map_of_mem hdk)
  obtain ⟨found, hfound⟩ := Option.isSome_iff_exists.mp hdead
  obtain ⟨hin, hmarker⟩ := mem_of_deadKey? hfound
  rw [hfound, List.inj_on_of_nodup_map h.nodup_markers hin hdk hmarker]

theorem builtin_names : (Registry.builtin.deadKeys.map (·.name)).Nodup
    ∧ ∀ dk ∈ Registry.builtin.deadKeys, dk.name ≠ "none".toList ∧ '"' ∉ dk.name := by
  decide

theorem uppercase_avoids_markers : ∀ dk ∈ Registry.builtin.deadKeys,
    Unicode.uppercaseMap.avoids dk.marker.toNat dk.marker.toNat = true ∧ 0 < dk.marker.toNat := by
  decide

theorem Drawn.mem_builtin (h : layout.Drawn Registry.builtin) (hdk : dk ∈ layout.deadKeys) :
    dk ∈ Registry.builtin.deadKeys :=
  List.mem_of_find?_eq_some (h.registry_eq ▸ h.orderly.known dk hdk)

/-- A layout that is drawn with the built-in dead keys can tell them apart. -/
theorem Drawn.keyed_complete (h : layout.Drawn Registry.builtin) : layout.complete.Keyed := by
  have hname : ∀ dk ∈ layout.complete.deadKeys, ∃ known ∈ Registry.builtin.deadKeys,
      dk.name = known.name := by
    intro dk hdk
    obtain ⟨drawn, hdrawn, rfl⟩ := List.mem_map.mp hdk
    exact ⟨drawn, h.mem_builtin hdrawn, name_completeDeadKey⟩
  refine ⟨by rw [map_marker_complete]; exact h.orderly.nodup, ?_, ?_, ?_, ?_, ?_⟩
  · rw [map_name_complete]
    refine List.pairwise_map.mpr ((List.pairwise_map.mp h.orderly.nodup).imp_of_mem ?_)
    intro dk other hdk hother hne heq
    refine hne (congrArg DeadKey.marker ?_)
    exact List.inj_on_of_nodup_map builtin_names.1 (h.mem_builtin hdk) (h.mem_builtin hother) heq
  · intro dk hdk
    obtain ⟨known, hknown, heq⟩ := hname dk hdk
    exact heq ▸ (builtin_names.2 known hknown).1
  · intro dk hdk
    obtain ⟨known, hknown, heq⟩ := hname dk hdk
    exact heq ▸ (builtin_names.2 known hknown).2
  · intro dk hdk
    obtain ⟨drawn, -, rfl⟩ := List.mem_map.mp hdk
    exact aligned_completeDeadKey
  · intro c d hd hdead
    rw [isDeadKey_complete, isDeadKey_iff] at hdead
    obtain ⟨dk, hdk, rfl⟩ := List.mem_map.mp hdead
    obtain ⟨havoids, hpos⟩ := uppercase_avoids_markers dk (h.mem_builtin hdk)
    exact Unicode.CaseMap.eq_of_avoids havoids hpos hd (Nat.le_refl _) (Nat.le_refl _)

end Layout

end KeyboardLayout
