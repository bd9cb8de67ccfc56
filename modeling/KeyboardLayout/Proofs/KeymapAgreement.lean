import KeyboardLayout.Proofs.KlcColumns
import KeyboardLayout.Proofs.Listings
import KeyboardLayout.Proofs.WebCompositions
import KeyboardLayout.Proofs.XkbStatements
import Mathlib.Data.List.DropRight
import Mathlib.Data.List.GetD

/-!
# Two views of the same four levels

A Windows layout table and a web keymap show the levels that a key has without the layout's own
dead key, each in its own spelling. Both spellings can be read back on the built-in registry
(`Klc.charOf?_symbolAt`, `WebKeymap.charOf?_textAt`), and both depend on nothing but the four
levels, so that two layouts have the same table exactly when they have the same keymap
(`lines_eq_iff_keymap_eq`).
-/

namespace KeyboardLayout

/-! ## Windows tables -/

namespace Klc

variable {a b drawn drawn' : Layout} {key : Key} {level : Level} {c : Char}

theorem shownAt_eq {registry : Registry} (h : drawn.Drawn registry) (key : Key) (level : Level) :
    shownAt drawn.complete key level = ((drawn.symbol key level).map fun c =>
      ((registry.deadKey? c).map (·.altSpace)).getD c).getD ' ' := by
  unfold shownAt
  rw [Layout.symbol_complete]
  cases hc : drawn.symbol key level with
  | none => rfl
  | some c =>
      show shown drawn.complete c = ((registry.deadKey? c).map (·.altSpace)).getD c
      rw [shown, h.deadKey?_complete hc, Option.map_map]
      simp only [Function.comp_def, Layout.altSpace_completeDeadKey]

theorem isCapsAffected_eq {registry : Registry} (h : drawn.Drawn registry) (key : Key) :
    isCapsAffected drawn.complete key = (drawn.symbol key .base).any fun c =>
      !(registry.deadKey? c).isSome && Text.upperChar c != [c] := by
  unfold isCapsAffected
  rw [Layout.symbol_complete]
  cases hc : drawn.symbol key .base with
  | none => rfl
  | some c =>
      show (!drawn.complete.isDeadKey c && _) = (!(registry.deadKey? c).isSome && _)
      rw [Layout.isDeadKey, h.deadKey?_complete hc, Option.isSome_map]

/-- A row shows the four levels and nothing else. -/
theorem row_congr (h : drawn.Drawn Registry.builtin) (h' : drawn'.Drawn Registry.builtin)
    (heq : ∀ level ∈ levels, drawn.symbol key level = drawn'.symbol key level) :
    row drawn.complete key = row drawn'.complete key := by
  have hsymbol : ∀ level ∈ levels,
      symbolAt drawn.complete key level = symbolAt drawn'.complete key level := by
    intro level hlevel
    rw [symbolAt_eq h, symbolAt_eq h', heq level hlevel]
  have hshown : ∀ level ∈ levels,
      [' ', shownAt drawn.complete key level] = [' ', shownAt drawn'.complete key level] := by
    intro level hlevel
    rw [shownAt_eq h, shownAt_eq h', heq level hlevel]
  have hcomment : comment drawn.complete key = comment drawn'.complete key := by
    rw [comment, comment, List.flatMap_congr hshown]
  have hcaps : isCapsAffected drawn.complete key = isCapsAffected drawn'.complete key := by
    rw [isCapsAffected_eq h, isCapsAffected_eq h', heq .base (by decide)]
  simp only [row, Layout.registry_complete, h.registry_eq, h'.registry_eq, hcomment, hcaps,
    hsymbol .base (by decide), hsymbol .shift (by decide), hsymbol .altGr (by decide),
    hsymbol .altGrShift (by decide)]

/-- Equal rows show the same characters at the four levels. -/
theorem symbol_eq_of_row_eq (h : drawn.Drawn Registry.builtin) (h' : drawn'.Drawn Registry.builtin)
    (heq : (row drawn.complete key).text = (row drawn'.complete key).text) :
    ∀ level ∈ levels, drawn.symbol key level = drawn'.symbol key level := by
  have hcolumns := congrArg columns heq
  rw [columns_row h, columns_row h'] at hcolumns
  obtain ⟨hleading, -⟩ := List.append_inj hcolumns rfl
  simp only [TableRow.leading, row, List.cons.injEq] at hleading
  obtain ⟨-, -, -, hbase, hshift, -, haltGr, haltGrShift, -⟩ := hleading
  have hread : ∀ level, symbolAt drawn.complete key level = symbolAt drawn'.complete key level →
      drawn.symbol key level = drawn'.symbol key level := by
    intro level hlevel
    rw [← charOf?_symbolAt h, hlevel, charOf?_symbolAt h']
  simp only [levels, List.forall_mem_cons]
  exact ⟨hread _ hbase, hread _ hshift, hread _ haltGr, hread _ haltGrShift,
    fun _ hnil => absurd hnil List.not_mem_nil⟩

/-- The table of a layout is its four levels. -/
theorem lines_eq_iff (h : drawn.Drawn Registry.builtin) (h' : drawn'.Drawn Registry.builtin) :
    lines drawn.complete = lines drawn'.complete ↔
      ∀ key, ∀ level ∈ levels, drawn.symbol key level = drawn'.symbol key level := by
  constructor
  · intro heq key
    exact symbol_eq_of_row_eq h h' (Sectioned.listing_inj heq key)
  · intro heq
    have hrows : (fun key => [(row drawn.complete key).text]) =
        fun key => [(row drawn'.complete key).text] :=
      funext fun key => by rw [row_congr h h' (heq key)]
    rw [lines, lines, hrows]

end Klc

/-! ## Web keymaps -/

namespace WebKeymap

variable {drawn drawn' : Layout} {key : Key} {level : Level} {c : Char}

/-- What a key types at a level; a key that types nothing there has the empty text. -/
def textAt (layout : Layout) (key : Key) (level : Level) : Text :=
  ((layout.symbol key level).map (symbol layout)).getD []

/-- The text of a character that is a dead key wherever the registry has one for it. -/
def fixedText (registry : Registry) (c : Char) : Text :=
  match registry.deadKey? c with
  | some dk => ['*', dk.glyph]
  | none => [c]

theorem textAt_eq {registry : Registry} (h : drawn.Drawn registry) (key : Key) (level : Level) :
    textAt drawn.complete key level =
      ((drawn.symbol key level).map (fixedText registry)).getD [] := by
  unfold textAt
  rw [Layout.symbol_complete]
  cases hc : drawn.symbol key level with
  | none => rfl
  | some c =>
      show symbol drawn.complete c = fixedText registry c
      unfold symbol fixedText
      rw [h.deadKey?_complete hc]
      cases registry.deadKey? c with
      | none => rfl
      | some dk =>
          show ['*', (drawn.completeDeadKey dk).glyph] = ['*', dk.glyph]
          rw [Layout.glyph_completeDeadKey]

/-- The character that a text of a keymap stands for on the built-in registry. -/
def charOf? : Text → Option Char
  | [c] => some c
  | ['*', glyph] => (Registry.builtin.deadKeys.find? (·.glyph == glyph)).map (·.marker)
  | _ => none

theorem charOf?_glyph : ∀ dk ∈ Registry.builtin.deadKeys,
    charOf? ['*', dk.glyph] = some dk.marker := by
  decide

/-- The texts of a keymap are read back as what the keys type. -/
theorem charOf?_textAt (h : drawn.Drawn Registry.builtin) (key : Key) (level : Level) :
    charOf? (textAt drawn.complete key level) = drawn.symbol key level := by
  rw [textAt_eq h]
  cases drawn.symbol key level with
  | none => rfl
  | some c =>
      show charOf? (fixedText Registry.builtin c) = some c
      unfold fixedText
      cases hdk : Registry.builtin.deadKey? c with
      | none => rfl
      | some dk =>
          obtain rfl := Registry.marker_of_deadKey? hdk
          exact charOf?_glyph dk (List.mem_of_find?_eq_some hdk)

theorem getD_rdropWhile_isEmpty (texts : List Text) (i : Nat) :
    (texts.rdropWhile List.isEmpty).getD i [] = texts.getD i [] := by
  induction texts using List.reverseRecOn with
  | nil => rfl
  | append_singleton texts last ih =>
      rw [List.rdropWhile_concat]
      split
      · rename_i hempty
        obtain rfl := List.isEmpty_iff.mp hempty
        rw [ih]
        by_cases hi : i < texts.length
        · rw [List.getD_append texts [[]] [] i hi]
        · rw [List.getD_eq_default texts [] (Nat.not_lt.mp hi),
            List.getD_append_right texts [[]] [] i (Nat.not_lt.mp hi)]
          cases i - texts.length <;> rfl
      · rfl

/-- The levels that are left out at the end are those without a text. -/
theorem getD_symbols (layout : Layout) (key : Key) (i : Nat) :
    (symbols layout key).getD i [] = (levels.map (textAt layout key)).getD i [] :=
  getD_rdropWhile_isEmpty (levels.map (textAt layout key)) i

theorem symbols_eq_iff (h : drawn.Drawn Registry.builtin) (h' : drawn'.Drawn Registry.builtin) :
    symbols drawn.complete key = symbols drawn'.complete key ↔
      ∀ level ∈ levels, drawn.symbol key level = drawn'.symbol key level := by
  constructor
  · intro heq
    have hread : ∀ (i : Nat) (level : Level), levels[i]? = some level →
        drawn.symbol key level = drawn'.symbol key level := by
      intro i level hi
      have htext : ∀ layout, (symbols layout key).getD i [] = textAt layout key level := by
        intro layout
        rw [getD_symbols, List.getD_eq_getElem?_getD, List.getElem?_map, hi]
        rfl
      rw [← charOf?_textAt h, ← htext, heq, htext, charOf?_textAt h']
    intro level hlevel
    obtain ⟨i, hi⟩ := List.mem_iff_getElem?.mp hlevel
    exact hread i level hi
  · intro heq
    have htexts : levels.map (textAt drawn.complete key) =
        levels.map (textAt drawn'.complete key) :=
      List.map_congr_left fun level hlevel => by
        rw [textAt_eq h, textAt_eq h', heq level hlevel]
    exact congrArg (List.rdropWhile List.isEmpty) htexts

theorem nodup_webCodes : (Key.all.map fun key => (Registry.builtin.keyCodes key).web).Nodup := by
  decide

/-- The keymap has an entry for every key that types anything. -/
theorem get?_keymap (h : drawn.Drawn Registry.builtin) (key : Key) :
    (Table.get? (Registry.builtin.keyCodes key).web (ofLayout drawn.complete).keymap).getD [] =
      symbols drawn.complete key := by
  have hrows : keyRows drawn.complete = (Key.all.map fun key =>
      ((Registry.builtin.keyCodes key).web, symbols drawn.complete key)).filter
        fun row => !row.2.isEmpty := by
    rw [keyRows, Layout.registry_complete, h.registry_eq]
  have hkeys : (keyRows drawn.complete).map Prod.fst |>.Nodup := by
    rw [hrows]
    refine List.Nodup.sublist (List.filter_sublist.map Prod.fst) ?_
    rw [List.map_map]
    exact nodup_webCodes
  rw [ofLayout, Table.get?_ofRows, Table.lookup_reverse hkeys]
  by_cases hempty : symbols drawn.complete key = []
  · have hnone : (Registry.builtin.keyCodes key).web ∉ (keyRows drawn.complete).map Prod.fst := by
      rw [hrows]
      intro hcode
      obtain ⟨row, hrow, hcode⟩ := List.mem_map.mp hcode
      obtain ⟨hin, htyped⟩ := List.mem_filter.mp hrow
      obtain ⟨other, hother, rfl⟩ := List.mem_map.mp hin
      -- a row of the same code would be the row of this key, which types nothing
      obtain rfl := List.inj_on_of_nodup_map nodup_webCodes hother (Key.mem_all key) hcode
      rw [hempty] at htyped
      cases htyped
    rw [Table.lookup_of_not_mem hnone, hempty]
    rfl
  · have hmem : ((Registry.builtin.keyCodes key).web, symbols drawn.complete key) ∈
        keyRows drawn.complete := by
      rw [hrows]
      refine List.mem_filter.mpr ⟨List.mem_map_of_mem (Key.mem_all key), ?_⟩
      simpa using hempty
    rw [Table.lookup_of_mem hkeys hmem]
    rfl

theorem keymap_congr (h : drawn.Drawn Registry.builtin) (h' : drawn'.Drawn Registry.builtin)
    (heq : ∀ key, symbols drawn.complete key = symbols drawn'.complete key) :
    (ofLayout drawn.complete).keymap = (ofLayout drawn'.complete).keymap := by
  simp only [ofLayout, keyRows, Layout.registry_complete, h.registry_eq, h'.registry_eq, heq]

/-- Keymaps with the same entries, in whatever order, come from the same four levels. -/
theorem keymap_eq_iff (h : drawn.Drawn Registry.builtin) (h' : drawn'.Drawn Registry.builtin) :
    (∀ code, Table.get? code (ofLayout drawn.complete).keymap =
        Table.get? code (ofLayout drawn'.complete).keymap) ↔
      ∀ key, ∀ level ∈ levels, drawn.symbol key level = drawn'.symbol key level := by
  constructor
  · intro heq key
    rw [← symbols_eq_iff h h', ← get?_keymap h, ← get?_keymap h', heq]
  · intro heq code
    rw [keymap_congr h h' fun key => (symbols_eq_iff h h').mpr (heq key)]

end WebKeymap

/-! ## Both views -/

variable {a b : Layout} {s t : Text}

/-- **Windows tables and web keymaps tell the same.** Layouts from texts have the same Windows table
exactly if they have the same keymap, whether its entries are compared in order or looked up, and
exactly if the same four layers, whatever the other two and the dead keys are. -/
theorem lines_eq_iff_keymap_eq (ha : Layout.ofText Registry.builtin s = .ok a)
    (hb : Layout.ofText Registry.builtin t = .ok b) :
    (Klc.lines a = Klc.lines b ↔
        (WebKeymap.ofLayout a).keymap = (WebKeymap.ofLayout b).keymap)
      ∧ ((WebKeymap.ofLayout a).keymap = (WebKeymap.ofLayout b).keymap ↔
        ∀ code, Table.get? code (WebKeymap.ofLayout a).keymap =
          Table.get? code (WebKeymap.ofLayout b).keymap)
      ∧ ((WebKeymap.ofLayout a).keymap = (WebKeymap.ofLayout b).keymap ↔
        ∀ level ∈ [Level.base, .shift, .altGr, .altGrShift], a.layer level = b.layer level) := by
  obtain ⟨drawn, hdrawn, rfl⟩ := Layout.drawn_of_ofText ha
  obtain ⟨drawn', hdrawn', rfl⟩ := Layout.drawn_of_ofText hb
  have hlookup := WebKeymap.keymap_eq_iff hdrawn hdrawn'
  have hkeymap : (WebKeymap.ofLayout drawn.complete).keymap =
      (WebKeymap.ofLayout drawn'.complete).keymap ↔
        ∀ key, ∀ level ∈ WebKeymap.levels, drawn.symbol key level = drawn'.symbol key level := by
    refine ⟨fun heq => hlookup.mp fun code => by rw [heq], fun heq => ?_⟩
    exact WebKeymap.keymap_congr hdrawn hdrawn' fun key =>
      (WebKeymap.symbols_eq_iff hdrawn hdrawn').mpr (heq key)
  have hlayers : (∀ level ∈ [Level.base, .shift, .altGr, .altGrShift],
      drawn.complete.layer level = drawn'.complete.layer level) ↔
        ∀ key, ∀ level ∈ WebKeymap.levels, drawn.symbol key level = drawn'.symbol key level := by
    constructor
    · intro heq key level hlevel
      exact congrArg (fun layer => layer.get key) (heq level hlevel)
    · intro heq level hlevel
      exact Layer.ext_get fun key => heq key level hlevel
  exact ⟨(Klc.lines_eq_iff hdrawn hdrawn').trans hkeymap.symm, hkeymap.trans hlookup.symm,
    hkeymap.trans hlayers.symm⟩

/-- A letter and the acute accent on one key. -/
def letterAndAcute : Key → Level → Option Char
  | .ad01, .base => some 'a'
  | .ad01, .shift => some 'A'
  | .ad01, .altGrShift => some '\u0301'
  | _, _ => none

/-- The four levels of the layout hold those characters. -/
def showsAll (typed : Key → Level → Option Char) (layout : Layout) : Bool :=
  Key.all.all fun key => Klc.levels.all fun level => layout.symbol key level == typed key level

/-- Two layouts that differ in their dead keys and on the levels of the layout's own one. -/
theorem lines_eq_graveBelow :
    ∃ a b, Layout.ofText Registry.builtin
          (Layout.sketch [(5, 8, 'a'), (5, 10, '\u0300')] [(4, 10, '\u0301')]) = .ok a
      ∧ Layout.ofText Registry.builtin (Layout.sketch [(5, 8, 'a')] [(4, 10, '\u0301')]) = .ok b
      ∧ Klc.lines a = Klc.lines b
      ∧ (WebKeymap.ofLayout a).keymap = (WebKeymap.ofLayout b).keymap
      ∧ a.deadKeys.map (·.marker) = ['\u0300', '\u0301']
      ∧ b.deadKeys.map (·.marker) = ['\u0301'] := by
  obtain ⟨a, ha, hchecked⟩ := Layout.exists_of_any_toOption Registry.builtin
    (Layout.sketch [(5, 8, 'a'), (5, 10, '\u0300')] [(4, 10, '\u0301')])
    (fun layout => showsAll letterAndAcute layout
      && layout.deadKeys.map (·.marker) == ['\u0300', '\u0301'])
    (by decide +kernel)
  obtain ⟨b, hb, hchecked'⟩ := Layout.exists_of_any_toOption Registry.builtin
    (Layout.sketch [(5, 8, 'a')] [(4, 10, '\u0301')])
    (fun layout => showsAll letterAndAcute layout && layout.deadKeys.map (·.marker) == ['\u0301'])
    (by decide +kernel)
  simp only [showsAll, Bool.and_eq_true, List.all_eq_true, beq_iff_eq] at hchecked hchecked'
  obtain ⟨htable, -, hlayers⟩ := lines_eq_iff_keymap_eq ha hb
  have hkeymap := hlayers.mpr fun level hlevel => Layer.ext_get fun key =>
    (hchecked.1 key (Key.mem_all key) level hlevel).trans
      (hchecked'.1 key (Key.mem_all key) level hlevel).symm
  exact ⟨a, b, ha, hb, htable.mpr hkeymap, hkeymap, hchecked.2, hchecked'.2⟩

end KeyboardLayout
