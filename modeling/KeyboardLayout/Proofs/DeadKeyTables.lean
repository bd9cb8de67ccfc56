import KeyboardLayout.Proofs.BuiltinTables
import KeyboardLayout.Proofs.DeadKeys
import KeyboardLayout.Proofs.Tables

/-!
# The final tables of dead keys

A layout gives its dead keys their tables last, from symbols that no table changes. So a dead key
that has its table keeps it when it is given once more, and the dead keys may be taken in any order
(`foldl_completeAt_eq_complete`). What the tables of a layout from a text hold is said by
`tables_of_ofText`: filtering rows by their first character keeps what the dead key makes of the
characters that stay, whichever row comes first for them.
-/

namespace KeyboardLayout

namespace DeadKey

variable {dk : DeadKey}

theorem Aligned.withPairs_pairs (h : dk.Aligned) : dk.withPairs dk.pairs = dk := by
  obtain ⟨marker, name, glyph, xkbSymbol, altSpace, altSelf, compose, base, alt⟩ := dk
  have hlength : base.length = alt.length := h
  simp only [withPairs, pairs, List.map_fst_zip (Nat.le_of_eq hlength),
    List.map_snd_zip (Nat.le_of_eq hlength.symm)]

/-- The characters that are kept compose as before, and no other does. -/
theorem result?_keepBases (dk : DeadKey) (keep : Char → Bool) (c : Char) :
    (dk.keepBases keep).result? c = if keep c then dk.result? c else none := by
  rw [result?_eq_lookup, result?_eq_lookup, pairs_keepBases, Table.lookup_filter]

theorem keepBases_keepBases (dk : DeadKey) (keep : Char → Bool) :
    (dk.keepBases keep).keepBases keep = dk.keepBases keep := by
  have hrows : (dk.keepBases keep).pairs.filter (fun row => keep row.1) =
      (dk.keepBases keep).pairs := by
    rw [pairs_keepBases, List.filter_filter]
    simp only [Bool.and_self]
  rw [keepBases, hrows]
  exact (aligned_withPairs _).withPairs_pairs

end DeadKey

namespace Layout

variable {layout : Layout} {dk : DeadKey} {registry : Registry}

/-! ## What the tables are made of -/

theorem derivedPairs_eq (layout : Layout) :
    layout.derivedPairs =
      Key.all.filterMap (layout.symbolPair? .base .deadKey)
        ++ Key.all.filterMap (layout.symbolPair? .shift .deadKeyShift) := by
  simp only [derivedPairs, deadKeyLevels, List.flatMap_cons, List.flatMap_nil, List.append_nil]

/-! ## Giving the tables again -/

theorem completeDeadKey_completeDeadKey (layout : Layout) (dk : DeadKey) :
    layout.completeDeadKey (layout.completeDeadKey dk) = layout.completeDeadKey dk := by
  by_cases h : dk.isLayoutDefined = true
  · simp only [completeDeadKey, if_pos h]
    exact if_pos h
  · simp only [completeDeadKey, if_neg h]
    exact (if_neg h).trans (dk.keepBases_keepBases layout.produces)

/-- Tables are made from the layers, whatever dead keys there are. -/
theorem completeDeadKey_with (layout : Layout) (deadKeys : List DeadKey) :
    completeDeadKey { layout with deadKeys := deadKeys } = layout.completeDeadKey := rfl

theorem complete_complete (layout : Layout) : layout.complete.complete = layout.complete := by
  simp only [complete, completeDeadKey_with, List.map_map, Function.comp_def,
    completeDeadKey_completeDeadKey]

/-- The layout with the final tables of the dead keys of some markers. -/
def completeAt (layout : Layout) (markers : List Char) : Layout :=
  { layout with
    deadKeys := layout.deadKeys.map fun dk =>
      if dk.marker ∈ markers then layout.completeDeadKey dk else dk }

theorem completeAt_eq_complete {markers : List Char}
    (h : ∀ dk ∈ layout.deadKeys, dk.marker ∈ markers) :
    layout.completeAt markers = layout.complete := by
  unfold completeAt complete
  congr 1
  exact List.map_congr_left fun dk hdk => if_pos (h dk hdk)

theorem completeAt_completeAt (first second : List Char) :
    (layout.completeAt first).completeAt second = layout.completeAt (first ++ second) := by
  simp only [completeAt, completeDeadKey_with, List.map_map, List.mem_append]
  congr 1
  refine List.map_congr_left fun (dk : DeadKey) _ => ?_
  rw [Function.comp_apply]
  by_cases hfirst : dk.marker ∈ first
  · simp only [hfirst, if_true, true_or, marker_completeDeadKey, completeDeadKey_completeDeadKey,
      ite_self]
  · simp only [hfirst, if_false, false_or]

theorem foldl_completeAt (layout : Layout) (markers : List Char) :
    markers.foldl (fun layout c => layout.completeAt [c]) layout = layout.completeAt markers := by
  induction markers using List.reverseRecOn with
  | nil => simp [completeAt]
  | append_singleton done c ih => rw [List.foldl_concat, ih, completeAt_completeAt]

/-- The dead keys may be given their tables one after the other, in any order and however often. -/
theorem foldl_completeAt_eq_complete {markers : List Char}
    (h : ∀ dk ∈ layout.deadKeys, dk.marker ∈ markers) :
    markers.foldl (fun layout c => layout.completeAt [c]) layout = layout.complete := by
  rw [foldl_completeAt, completeAt_eq_complete h]

/-! ## The tables of a layout from a text -/

@[simp] theorem isLayoutDefined_completeDeadKey :
    (layout.completeDeadKey dk).isLayoutDefined = dk.isLayoutDefined := by
  unfold completeDeadKey; split <;> rfl

/-- A layout-defined dead key ends up with the table of the layout. -/
theorem pairs_of_isLayoutDefined (hdk : dk ∈ layout.complete.deadKeys)
    (h : dk.isLayoutDefined = true) : dk.pairs = layout.derivedPairs := by
  obtain ⟨known, -, rfl⟩ := List.mem_map.mp hdk
  rw [isLayoutDefined_completeDeadKey] at h
  rw [completeDeadKey, if_pos h, DeadKey.pairs_withPairs]

theorem builtin_bases : ∀ dk ∈ Registry.builtin.deadKeys, (dk.pairs.map Prod.fst).Nodup := by
  rw [Registry.builtin_deadKeys]
  decide

/-- The table of a dead key is that of the layout, or no character starts two of its rows. -/
theorem pairs_cases (h : layout.Drawn Registry.builtin) (hdk : dk ∈ layout.complete.deadKeys) :
    (dk.isLayoutDefined = true ∧ dk.pairs = layout.derivedPairs)
      ∨ (dk.isLayoutDefined = false ∧ (dk.pairs.map Prod.fst).Nodup) := by
  cases hdefined : dk.isLayoutDefined with
  | true => exact Or.inl ⟨rfl, pairs_of_isLayoutDefined hdk hdefined⟩
  | false =>
      obtain ⟨known, hknown, rfl⟩ := List.mem_map.mp hdk
      rw [isLayoutDefined_completeDeadKey] at hdefined
      refine Or.inr ⟨rfl, ?_⟩
      rw [completeDeadKey, hdefined, if_neg Bool.false_ne_true, DeadKey.pairs_keepBases]
      exact (builtin_bases known (h.mem_builtin hknown)).sublist
        (List.filter_sublist.map Prod.fst)

/-- The dead key of the layout is that of the registry with its final table. -/
structure Tabled (layout : Layout) (known dk : DeadKey) : Prop where
  eq_withPairs : dk = known.withPairs dk.pairs
  aligned : dk.base.length = dk.alt.length
  combinesWith_eq : ∀ c, dk.combinesWith c = (dk.result? c).isSome
  /-- A table of its own has lost the rows that start from no character of the layout. -/
  of_table : dk.isLayoutDefined = false →
    dk.pairs = known.pairs.filter (fun row => layout.produces row.1)
      ∧ ∀ c, dk.result? c = if layout.produces c then known.result? c else none
  /-- A layout-defined table pairs what the keys type, the unshifted symbols before the others. -/
  of_layout : dk.isLayoutDefined = true →
    dk.pairs = Key.all.filterMap (layout.symbolPair? .base .deadKey)
      ++ Key.all.filterMap (layout.symbolPair? .shift .deadKeyShift)

theorem tabled_completeDeadKey (layout : Layout) (dk : DeadKey) :
    layout.Tabled dk (layout.completeDeadKey dk) where
  eq_withPairs := by
    unfold completeDeadKey
    split
    · rw [DeadKey.pairs_withPairs]
    · rw [DeadKey.pairs_keepBases, DeadKey.keepBases]
  aligned := aligned_completeDeadKey
  combinesWith_eq := fun c => Bool.eq_iff_iff.mpr (DeadKey.combinesWith_iff aligned_completeDeadKey)
  of_table := by
    intro h
    rw [isLayoutDefined_completeDeadKey] at h
    rw [completeDeadKey, h, if_neg Bool.false_ne_true]
    exact ⟨DeadKey.pairs_keepBases .., dk.result?_keepBases layout.produces⟩
  of_layout := by
    intro h
    rw [isLayoutDefined_completeDeadKey] at h
    rw [completeDeadKey, if_pos h, DeadKey.pairs_withPairs, derivedPairs_eq]

theorem exists_symbol_of_mem_derivedPairs {row : Char × Char} (h : row ∈ layout.derivedPairs) :
    ∃ key level, layout.symbol key level = some row.1 := by
  rw [derivedPairs_eq] at h
  rcases List.mem_append.mp h with h | h <;> obtain ⟨key, -, hpair⟩ := List.mem_filterMap.mp h
  · exact ⟨key, .base, (symbolPair?_eq_some_iff.mp hpair).1⟩
  · exact ⟨key, .shift, (symbolPair?_eq_some_iff.mp hpair).1⟩

/-- **The tables of the dead keys** of a layout from a text are the final ones, and giving them
once more changes nothing. -/
theorem tables_of_ofText {t : Text} (h : ofText registry t = .ok layout) :
    (∀ dk ∈ layout.deadKeys, ∃ known, registry.deadKey? dk.marker = some known
        ∧ layout.Tabled known dk)
      ∧ layout.complete = layout := by
  obtain ⟨drawn, hdrawn, rfl⟩ := drawn_of_ofText h
  refine ⟨fun dk hdk => ?_, complete_complete drawn⟩
  obtain ⟨known, hknown, rfl⟩ := List.mem_map.mp hdk
  refine ⟨known, ?_, tabled_completeDeadKey drawn.complete known⟩
  rw [marker_completeDeadKey, ← hdrawn.registry_eq]
  exact hdrawn.orderly.known known hknown

/-- With two letters the acute accent keeps the row of one, and the layout's own dead key has the
symbols beside both. -/
theorem tables_of_ofText_twoLetters :
    ∃ layout acute own, ofText Registry.builtin (sketch
        [(5, 8, 'a'), (5, 10, '1'), (5, 14, 'b'), (5, 16, '2')]
        [(5, 10, '\u0301'), (5, 16, '\u20e1')]) = .ok layout
      ∧ layout.deadKey? '\u0301' = some acute ∧ acute.result? 'a' = some 'á'
      ∧ acute.result? 'e' = none
      ∧ layout.deadKey? '\u20e1' = some own ∧ own.result? 'b' = some '2'
      ∧ layout.complete = layout := by
  obtain ⟨layout, h, hchecked⟩ := exists_of_any_toOption Registry.builtin (sketch
      [(5, 8, 'a'), (5, 10, '1'), (5, 14, 'b'), (5, 16, '2')]
      [(5, 10, '\u0301'), (5, 16, '\u20e1')])
    (fun layout => (layout.deadKey? '\u0301').any (!·.isLayoutDefined)
      && (layout.deadKey? '\u20e1').any (·.isLayoutDefined)
      && layout.produces 'a' && !layout.produces 'e'
      && layout.derivedPairs.lookup 'b' == some '2')
    (by decide +kernel)
  simp only [Bool.and_eq_true, Option.any_eq_true, Bool.not_eq_true', beq_iff_eq] at hchecked
  obtain ⟨⟨⟨⟨⟨acute, hacute, htable⟩, own, hown, hdefined⟩, ha⟩, he⟩, hb⟩ := hchecked
  obtain ⟨htabled, hcomplete⟩ := tables_of_ofText h
  obtain ⟨hmem, hmarker⟩ := mem_of_deadKey? hacute
  obtain ⟨known, hknown, hacuteTabled⟩ := htabled acute hmem
  obtain ⟨_, -, hownTabled⟩ := htabled own (mem_of_deadKey? hown).1
  obtain ⟨-, hresult⟩ := hacuteTabled.of_table htable
  have ha' : (Registry.builtin.deadKey? '\u0301').bind (·.result? 'a') = some 'á' := by decide
  rw [← hmarker, hknown, Option.bind_some] at ha'
  refine ⟨layout, acute, own, h, hacute, ?_, ?_, hown, ?_, hcomplete⟩
  · rw [hresult, if_pos ha, ha']
  · rw [hresult, he, if_neg Bool.false_ne_true]
  · rw [DeadKey.result?_eq_lookup, hownTabled.of_layout hdefined, ← derivedPairs_eq, hb]

end Layout

end KeyboardLayout
