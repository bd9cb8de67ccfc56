import KeyboardLayout.Proofs.DeadKeyTables
import KeyboardLayout.WebKeymap

/-!
# Compositions in web keymaps

A dead key takes the first row of its table that starts with a character; the web keymap, which
writes the rows one after the other, keeps the last. On the built-in registry no two characters are
written alike there (`symbol_injective`), so that the tables have entries for the same characters,
and they differ only where a layout-defined dead key meets a character that several keys type, with
different symbols beside its first and its last row (`get?_deadKeys_iff`).
-/

namespace KeyboardLayout

namespace WebKeymap

open Layout (pairs_cases)

variable {layout drawn : Layout} {dk : DeadKey} {c : Char} {t : Text}

theorem symbol_cases (layout : Layout) (c : Char) :
    (∃ dk ∈ layout.deadKeys, dk.marker = c ∧ symbol layout c = ['*', dk.glyph])
      ∨ symbol layout c = [c] := by
  unfold symbol
  cases h : layout.deadKey? c with
  | none => exact Or.inr rfl
  | some dk =>
      obtain ⟨hdk, hmarker⟩ := Layout.mem_of_deadKey? h
      exact Or.inl ⟨dk, hdk, hmarker, rfl⟩

theorem builtin_glyphs : (Registry.builtin.deadKeys.map (·.glyph)).Nodup := by
  decide

/-- No two characters are written alike. -/
theorem symbol_injective (h : drawn.Drawn Registry.builtin) :
    Function.Injective (symbol drawn.complete) := by
  have hbuiltin : ∀ dk ∈ drawn.complete.deadKeys, ∃ known ∈ Registry.builtin.deadKeys,
      dk.marker = known.marker ∧ dk.glyph = known.glyph := by
    intro dk hdk
    obtain ⟨known, hknown, rfl⟩ := List.mem_map.mp hdk
    exact ⟨known, h.mem_builtin hknown, Layout.marker_completeDeadKey, Layout.glyph_completeDeadKey⟩
  intro c d heq
  obtain ⟨dk, hdk, rfl, hc⟩ | hc := symbol_cases drawn.complete c
  · obtain ⟨other, hother, rfl, hd⟩ | hd := symbol_cases drawn.complete d
    · obtain ⟨known, hknown, hmarker, hglyph⟩ := hbuiltin dk hdk
      obtain ⟨known', hknown', hmarker', hglyph'⟩ := hbuiltin other hother
      have hsame : dk.glyph = other.glyph := by simpa [hc, hd] using heq
      rw [hmarker, hmarker']
      rw [hglyph, hglyph'] at hsame
      exact congrArg DeadKey.marker (List.inj_on_of_nodup_map builtin_glyphs hknown hknown' hsame)
    · simp [hc, hd] at heq
  · obtain ⟨other, -, -, hd⟩ | hd := symbol_cases drawn.complete d
    · simp [hc, hd] at heq
    · simpa [hc, hd] using heq

/-! ## Entries -/

/-- The keymap has the table of every dead key. -/
theorem get?_marker (h : drawn.Drawn Registry.builtin) (hdk : dk ∈ drawn.complete.deadKeys) :
    Table.get? (symbol drawn.complete dk.marker) (ofLayout drawn.complete).deadKeys =
      some (deadKeyTable drawn.complete dk) := by
  have hkeys : ((drawn.complete.deadKeys.map fun dk =>
      (symbol drawn.complete dk.marker, deadKeyTable drawn.complete dk)).map Prod.fst).Nodup := by
    rw [List.map_map]
    have hmarkers : (drawn.complete.deadKeys.map (·.marker)).Nodup :=
      h.keyed_complete.nodup_markers
    simpa [Function.comp_def] using hmarkers.map (symbol_injective h)
  have hmem := List.mem_map_of_mem
    (f := fun dk => (symbol drawn.complete dk.marker, deadKeyTable drawn.complete dk)) hdk
  rw [ofLayout, Table.get?_ofRows, Table.lookup_reverse hkeys, Table.lookup_of_mem hkeys hmem]

/-- The table of a dead key has the last row that starts with the character. -/
theorem get?_deadKeyTable (h : drawn.Drawn Registry.builtin) (dk : DeadKey) (c : Char) :
    Table.get? (symbol drawn.complete c) (deadKeyTable drawn.complete dk) =
      (dk.pairs.reverse.lookup c).map (symbol drawn.complete) := by
  rw [deadKeyTable, Table.get?_ofRows, ← List.map_reverse,
    Table.lookup_map (symbol_injective h)]

/-- **Web keymaps against dead keys.** The web keymap of a layout from a text has a table for every
dead key, with entries for exactly the characters that the dead key composes with. The entry is what
the dead key makes of the character, except where the first and the last key that type the
character have different symbols on the levels that a layout-defined dead key leads to. -/
theorem get?_deadKeys_iff (h : Layout.ofText Registry.builtin t = .ok layout)
    (hdk : dk ∈ layout.deadKeys) :
    ∃ table, Table.get? (symbol layout dk.marker) (ofLayout layout).deadKeys = some table
      ∧ ∀ c, (Table.get? (symbol layout c) table).isSome = (dk.result? c).isSome
        ∧ (Table.get? (symbol layout c) table = (dk.result? c).map (symbol layout) ↔
          (dk.isLayoutDefined = true →
            layout.derivedPairs.lookup c = layout.derivedPairs.reverse.lookup c)) := by
  obtain ⟨drawn, hdrawn, rfl⟩ := Layout.drawn_of_ofText h
  refine ⟨_, get?_marker hdrawn hdk, fun c => ?_⟩
  rw [get?_deadKeyTable hdrawn, DeadKey.result?_eq_lookup]
  refine ⟨by rw [Option.isSome_map, Table.isSome_lookup_reverse], ?_⟩
  rw [(Option.map_injective (symbol_injective hdrawn)).eq_iff]
  obtain ⟨hdefined, hpairs⟩ | ⟨hdefined, hkeys⟩ := pairs_cases hdrawn hdk
  · rw [hpairs]
    exact ⟨fun heq _ => heq.symm, fun heq => (heq hdefined).symm⟩
  · refine ⟨fun _ htrue => ?_, fun _ => Table.lookup_reverse hkeys c⟩
    rw [hdefined] at htrue
    cases htrue

/-- Two letters with symbols of their own on the dead-key level. -/
theorem get?_deadKeys_letters :
    ∃ layout dk table, Layout.ofText Registry.builtin (Layout.sketch
        [(5, 8, 'a'), (5, 10, 'â'), (5, 14, 'e'), (5, 16, 'ê')] [(5, 10, '\u20e1')]) = .ok layout
      ∧ layout.deadKey? '\u20e1' = some dk ∧ dk.isLayoutDefined = true
      ∧ Table.get? (symbol layout '\u20e1') (ofLayout layout).deadKeys = some table
      ∧ Table.get? (symbol layout 'e') table = (dk.result? 'e').map (symbol layout) := by
  obtain ⟨layout, h, hchecked⟩ := Layout.exists_of_any_toOption Registry.builtin (Layout.sketch
      [(5, 8, 'a'), (5, 10, 'â'), (5, 14, 'e'), (5, 16, 'ê')] [(5, 10, '\u20e1')])
    (fun layout => (layout.deadKey? '\u20e1').any DeadKey.isLayoutDefined
      && layout.derivedPairs.lookup 'e' == layout.derivedPairs.reverse.lookup 'e')
    (by decide +kernel)
  simp only [Bool.and_eq_true, Option.any_eq_true, beq_iff_eq] at hchecked
  obtain ⟨⟨dk, hdk, hdefined⟩, hsame⟩ := hchecked
  obtain ⟨hmem, hmarker⟩ := Layout.mem_of_deadKey? hdk
  obtain ⟨table, htable, hentry⟩ := get?_deadKeys_iff h hmem
  refine ⟨layout, dk, table, h, hdk, hdefined, hmarker ▸ htable, ?_⟩
  exact (hentry 'e').2.mpr fun _ => hsame

/-- Of two keys that type the same letter the dead key takes the first, the web keymap the last. -/
theorem get?_deadKeys_ne_twice :
    ∃ layout dk table, Layout.ofText Registry.builtin (Layout.sketch
        [(5, 8, 'a'), (5, 10, 'â'), (5, 14, 'a'), (5, 16, 'ä')] [(5, 10, '\u20e1')]) = .ok layout
      ∧ dk ∈ layout.deadKeys
      ∧ Table.get? (symbol layout dk.marker) (ofLayout layout).deadKeys = some table
      ∧ dk.result? 'a' = some 'â' ∧ symbol layout 'â' = ['â']
      ∧ Table.get? (symbol layout 'a') table = some ['ä'] := by
  obtain ⟨layout, h, hchecked⟩ := Layout.exists_of_any_toOption Registry.builtin (Layout.sketch
      [(5, 8, 'a'), (5, 10, 'â'), (5, 14, 'a'), (5, 16, 'ä')] [(5, 10, '\u20e1')])
    (fun layout => (layout.deadKey? '\u20e1').any fun dk => dk.result? 'a' == some 'â'
      && symbol layout 'â' == ['â']
      && (Table.get? (symbol layout dk.marker) (ofLayout layout).deadKeys).any fun table =>
        Table.get? (symbol layout 'a') table == some ['ä'])
    (by decide +kernel)
  simp only [Bool.and_eq_true, Option.any_eq_true, beq_iff_eq] at hchecked
  obtain ⟨dk, hdk, ⟨hresult, hsymbol⟩, table, htable, hentry⟩ := hchecked
  exact ⟨layout, dk, table, h, (Layout.mem_of_deadKey? hdk).1, htable, hresult, hsymbol, hentry⟩

end WebKeymap

end KeyboardLayout
