import KeyboardLayout.Proofs.Boards
import KeyboardLayout.Proofs.DeadKeyOrder
import KeyboardLayout.Proofs.KlcColumns
import KeyboardLayout.Proofs.Listings

/-!
# References between Windows tables

A Windows source refers to a dead key by its code and an at sign: where a key is that dead key, and
where a dead key makes another one of a character. Two more tables have to know the code, one with a
block for each dead key and one with its name. Every reference is resolved by exactly one block and
one name (`references_resolved`), because a symbol with an at sign is always the code of a dead key
of the layout and different dead keys have different codes.
-/

namespace KeyboardLayout.Klc

variable {layout drawn : Layout} {dk : DeadKey} {code line : Text}

/-! ## References -/

/-- The columns of the layout table that hold symbols. -/
def symbolColumns : List Nat :=
  [3, 4, 5, 6, 7]

/-- Some line refers to the dead key of that code: a row of the layout table in one of its symbols,
or a pair of a dead-key block in its result. -/
def Refers (layout : Layout) (code : Text) : Prop :=
  (∃ line ∈ lines layout, ∃ i ∈ symbolColumns, (columns line)[i]? = some (code ++ ['@']))
    ∨ ∃ line ∈ deadKeyLines layout, (columns line)[1]? = some (code ++ ['@'])

theorem ne_reference {symbol : Text} (h : '@' ∉ symbol) (code : Text) : symbol ≠ code ++ ['@'] := by
  rintro rfl
  exact h (List.mem_append_right _ (List.mem_cons_self ..))

theorem at_not_mem_nothing : '@' ∉ nothing := by
  decide

/-- A symbol with an at sign is the code of a dead key. -/
theorem mem_codes_of_symbolAt (h : layout.registry = Registry.builtin) {key : Key} {level : Level}
    (hcode : symbolAt layout key level = code ++ ['@']) :
    code ∈ layout.deadKeys.map deadKeyCode := by
  have hliteral : Registry.builtin.isKlcLiteral '@' = false := by decide
  unfold symbolAt at hcode
  cases hc : layout.symbol key level with
  | none =>
      rw [hc] at hcode
      exact absurd hcode (ne_reference at_not_mem_nothing code)
  | some c =>
      rw [hc, Option.map_some, Option.getD_some, symbol, h] at hcode
      cases hdk : layout.deadKey? c with
      | some dk =>
          simp only [hdk] at hcode
          obtain ⟨hmem, -⟩ := Layout.mem_of_deadKey? hdk
          exact List.append_cancel_right hcode ▸ List.mem_map_of_mem hmem
      | none =>
          simp only [hdk] at hcode
          refine absurd hcode (ne_reference ?_ code)
          split
          · rename_i hc
            intro hat
            rw [← List.mem_singleton.mp hat, hliteral] at hc
            cases hc
          · exact Text.not_mem_hex rfl

/-- A row refers to dead keys of the layout only. -/
theorem mem_codes_of_row (h : drawn.Drawn Registry.builtin) {key : Key} {i : Nat}
    (hi : i ∈ symbolColumns)
    (hcode : (columns (row drawn.complete key).text)[i]? = some (code ++ ['@'])) :
    code ∈ drawn.complete.deadKeys.map deadKeyCode := by
  have hsymbol : ∀ level, some (symbolAt drawn.complete key level) = some (code ++ ['@']) →
      code ∈ drawn.complete.deadKeys.map deadKeyCode :=
    fun level heq => mem_codes_of_symbolAt h.registry_eq (Option.some.inj heq)
  rw [columns_row h] at hcode
  simp only [symbolColumns, List.mem_cons, List.not_mem_nil, or_false] at hi
  rcases hi with rfl | rfl | rfl | rfl | rfl
  · exact hsymbol .base hcode
  · exact hsymbol .shift hcode
  · exact absurd (Option.some.inj hcode) (ne_reference at_not_mem_nothing code)
  · exact hsymbol .altGr hcode
  · exact hsymbol .altGrShift hcode

/-! ## Lines of a dead-key block -/

theorem pairLine_eq (layout : Layout) (base alt : Char) :
    pairLine layout base alt = Text.hex (shown layout base) ++ '\t' ::
      ((Text.hex (shown layout alt) ++ if layout.isDeadKey alt then ['@'] else []) ++ '\t' ::
        ("// ".toList ++ [shown layout base] ++ " -> ".toList ++ [shown layout alt])) := by
  simp [pairLine]

/-- The columns of a pair: what leads to it and what it results in, then a comment. -/
theorem columns_pairLine (layout : Layout) (base alt : Char) :
    columns (pairLine layout base alt) =
      Text.hex (shown layout base)
        :: (Text.hex (shown layout alt) ++ if layout.isDeadKey alt then ['@'] else [])
        :: columns ("// ".toList ++ [shown layout base] ++ " -> ".toList ++
            [shown layout alt]) := by
  have htab : ∀ c, '\t' ∉ Text.hex c := fun c => Text.not_mem_hex rfl
  have hresult : '\t' ∉ Text.hex (shown layout alt) ++
      if layout.isDeadKey alt then ['@'] else [] := by
    rw [List.mem_append, not_or]
    refine ⟨htab _, ?_⟩
    split <;> decide
  rw [pairLine_eq, columns_append_tab (htab _), columns_append_tab hresult]

/-- A pair refers to dead keys of the layout only. -/
theorem mem_codes_of_pairLine {base alt : Char}
    (hcode : (columns (pairLine layout base alt))[1]? = some (code ++ ['@'])) :
    code ∈ layout.deadKeys.map deadKeyCode := by
  rw [columns_pairLine] at hcode
  replace hcode := Option.some.inj hcode
  unfold shown Layout.isDeadKey at hcode
  cases hdk : layout.deadKey? alt with
  | some dk =>
      rw [hdk] at hcode
      obtain ⟨hmem, -⟩ := Layout.mem_of_deadKey? hdk
      exact List.append_cancel_right hcode ▸ List.mem_map_of_mem hmem
  | none =>
      rw [hdk] at hcode
      exact absurd ((List.append_nil _).symm.trans hcode)
        (ne_reference (Text.not_mem_hex rfl) code)

/-- What holds of blank lines, of titles and of pairs holds of every line between the heading of a
block and its end. -/
theorem forall_mem_pairLines {P : Text → Prop} (hnil : P [])
    (htitle : ∀ group ∈ Key.sections, P (Sectioned.slashTitle group.title))
    (hpair : ∀ base alt, P (pairLine layout base alt)) :
    ∀ line ∈ pairLines layout dk, P line := by
  intro line hline
  unfold pairLines at hline
  split at hline
  · refine Sectioned.forall_mem_blocks hnil ?_ line hline
    intro part hpart line hline
    obtain ⟨levels, -, hin⟩ := List.mem_flatMap.mp hpart
    obtain ⟨group, hgroup, rfl⟩ := List.mem_map.mp hin
    rcases List.mem_cons.mp hline with rfl | hline
    · exact htitle group hgroup
    · obtain ⟨key, -, hin⟩ := List.mem_flatMap.mp hline
      obtain ⟨pair, -, rfl⟩ := Option.map_eq_some_iff.mp (Option.mem_toList.mp hin)
      exact hpair pair.1 pair.2
  · obtain ⟨pair, -, rfl⟩ := List.mem_map.mp hline
    exact hpair pair.1 pair.2

/-- The line that ends a block. -/
def blockEnd : Text :=
  "//\x7d\x7d\x7d".toList

/-- The two lines that every block closes with. -/
def closingLines (layout : Layout) (dk : DeadKey) : List Text :=
  [pairLine layout '\u00a0' dk.altSpace, pairLine layout ' ' dk.altSpace]

/-- The lines of a block between its declaration and the closing lines. -/
def tableLines (layout : Layout) (dk : DeadKey) : List Text :=
  [] :: pairLines layout dk ++ [[]]

/-- The lines of a block between its declaration and its end. -/
def blockLines (layout : Layout) (dk : DeadKey) : List Text :=
  tableLines layout dk ++ closingLines layout dk

theorem deadKeyBlock_eq (layout : Layout) (dk : DeadKey) :
    deadKeyBlock layout dk =
      ("// DEADKEY: ".toList ++ Text.upper dk.name ++ " //\x7b\x7b\x7b".toList)
        :: ("DEADKEY\t".toList ++ deadKeyCode dk) :: (blockLines layout dk ++ [blockEnd]) := by
  simp [deadKeyBlock, blockLines, tableLines, closingLines, blockEnd]

theorem forall_mem_blockLines {P : Text → Prop} (hnil : P [])
    (htitle : ∀ group ∈ Key.sections, P (Sectioned.slashTitle group.title))
    (hpair : ∀ base alt, P (pairLine layout base alt)) :
    ∀ line ∈ blockLines layout dk, P line := by
  intro line hline
  simp only [blockLines, tableLines, closingLines, List.mem_append, List.mem_cons,
    List.not_mem_nil, or_false] at hline
  rcases hline with ((rfl | hline) | rfl) | rfl | rfl
  · exact hnil
  · exact forall_mem_pairLines hnil htitle hpair line hline
  · exact hnil
  · exact hpair ..
  · exact hpair ..

theorem tab_not_mem_titles : ∀ group ∈ Key.sections, '\t' ∉ Sectioned.slashTitle group.title := by
  decide

theorem tab_not_mem_upperNames : ∀ dk ∈ Registry.builtin.deadKeys, '\t' ∉ Text.upper dk.name := by
  rw [Registry.builtin_deadKeys]
  decide

theorem result_of_tab_not_mem (h : '\t' ∉ line) (i : Nat) : (columns line)[i + 1]? = none := by
  rw [columns_of_not_mem h]
  rfl

/-- The tables of the dead keys refer to dead keys of the layout only. -/
theorem mem_codes_of_deadKeyLines (h : drawn.Drawn Registry.builtin)
    (hline : line ∈ deadKeyLines drawn.complete)
    (hcode : (columns line)[1]? = some (code ++ ['@'])) :
    code ∈ drawn.complete.deadKeys.map deadKeyCode := by
  have hplain : ∀ {line}, '\t' ∉ line → (columns line)[1]? = some (code ++ ['@']) →
      code ∈ drawn.complete.deadKeys.map deadKeyCode := by
    intro line hline hcode
    rw [result_of_tab_not_mem hline] at hcode
    cases hcode
  refine Sectioned.forall_mem_blocks (P := fun line => (columns line)[1]? = some (code ++ ['@']) →
    code ∈ drawn.complete.deadKeys.map deadKeyCode) (hplain List.not_mem_nil) ?_ line hline hcode
  intro block hblock line hline
  obtain ⟨dk, hdk, rfl⟩ := List.mem_map.mp hblock
  simp only [deadKeyBlock_eq, List.mem_append, List.mem_cons, List.not_mem_nil, or_false] at hline
  rcases hline with rfl | rfl | hline | rfl
  · obtain ⟨known, hknown, rfl⟩ := List.mem_map.mp hdk
    have hfixed : '\t' ∉ "// DEADKEY: ".toList ∧ '\t' ∉ " //\x7b\x7b\x7b".toList := by decide
    have hname := tab_not_mem_upperNames known (h.mem_builtin hknown)
    refine hplain ?_
    rw [Layout.name_completeDeadKey, List.mem_append, List.mem_append, not_or, not_or]
    exact ⟨⟨hfixed.1, hname⟩, hfixed.2⟩
  · intro hcode
    have hmark : '\t' ∉ "DEADKEY".toList := by decide
    have hcode' : '\t' ∉ deadKeyCode dk := Text.not_mem_hex rfl
    have hcolumns : columns ("DEADKEY\t".toList ++ deadKeyCode dk) =
        ["DEADKEY".toList, deadKeyCode dk] :=
      (columns_append_tab hmark _).trans (congrArg _ (columns_of_not_mem hcode'))
    rw [hcolumns] at hcode
    exact absurd (Option.some.inj hcode) (ne_reference (Text.not_mem_hex rfl) code)
  · exact forall_mem_blockLines (P := fun line => (columns line)[1]? = some (code ++ ['@']) →
      code ∈ drawn.complete.deadKeys.map deadKeyCode) (hplain List.not_mem_nil)
      (fun group hgroup => hplain (tab_not_mem_titles group hgroup))
      (fun _ _ => mem_codes_of_pairLine) line hline
  · exact hplain (by decide)

/-- Every reference is to a dead key of the layout. -/
theorem mem_codes_of_refers (h : drawn.Drawn Registry.builtin)
    (hrefers : Refers drawn.complete code) : code ∈ drawn.complete.deadKeys.map deadKeyCode := by
  rcases hrefers with ⟨line, hline, i, hi, hcode⟩ | ⟨line, hline, hcode⟩
  · have hplain : ∀ {line}, '\t' ∉ line → (columns line)[i]? ≠ some (code ++ ['@']) := by
      intro line hline heq
      obtain ⟨j, rfl⟩ : ∃ j, i = j + 1 := by
        simp only [symbolColumns, List.mem_cons, List.not_mem_nil, or_false] at hi
        exact ⟨i - 1, by omega⟩
      rw [result_of_tab_not_mem hline] at heq
      cases heq
    refine Sectioned.forall_mem_listing (P := fun line =>
      (columns line)[i]? = some (code ++ ['@']) → code ∈ drawn.complete.deadKeys.map deadKeyCode)
      (fun heq => absurd heq (hplain List.not_mem_nil))
      (fun group hgroup heq => absurd heq (hplain (tab_not_mem_titles group hgroup))) ?_
      line hline hcode
    intro key line hline hcode
    rw [List.mem_singleton.mp hline] at hcode
    exact mem_codes_of_row h hi hcode
  · exact mem_codes_of_deadKeyLines h hline hcode

/-! ## Declarations -/

/-- What the line of a block that declares its code starts with. -/
def mark : Text :=
  "DEADKEY\t".toList

/-- A line that does not start as a declaration does is none. -/
theorem after?_mark_of_head (h : line.head? ≠ some 'D') : Text.after? mark line = none := by
  cases hrest : Text.after? mark line with
  | none => rfl
  | some rest =>
      rw [Text.after?_eq_some_iff.mp hrest] at h
      exact absurd rfl h

theorem after?_mark_pairLine (layout : Layout) (base alt : Char) :
    Text.after? mark (pairLine layout base alt) = none := by
  cases hrest : Text.after? mark (pairLine layout base alt) with
  | none => rfl
  | some rest =>
      have hmark : '\t' ∉ "DEADKEY".toList := by decide
      have hfirst : columns (pairLine layout base alt) = "DEADKEY".toList :: columns rest := by
        rw [Text.after?_eq_some_iff.mp hrest]
        exact columns_append_tab hmark rest
      have hcode : Text.hex (shown layout base) = "DEADKEY".toList := by
        rw [columns_pairLine] at hfirst
        exact (List.cons.inj hfirst).1
      have hK : 'K' ∉ Text.hex (shown layout base) := Text.not_mem_hex rfl
      exact absurd (hcode ▸ hK) (by decide)

theorem after?_mark_heading (dk : DeadKey) :
    Text.after? mark ("// DEADKEY: ".toList ++ Text.upper dk.name ++ " //\x7b\x7b\x7b".toList) =
      none :=
  after?_mark_of_head (by simp)

theorem after?_mark_declaration (dk : DeadKey) :
    Text.after? mark ("DEADKEY\t".toList ++ deadKeyCode dk) = some (deadKeyCode dk) :=
  Text.after?_eq_some_iff.mpr rfl

theorem after?_mark_of_mem_blockLines (h : line ∈ blockLines layout dk) :
    Text.after? mark line = none :=
  forall_mem_blockLines (P := fun line => Text.after? mark line = none) rfl
    (fun _ _ => after?_mark_of_head (by simp [Sectioned.slashTitle]))
    (after?_mark_pairLine layout) line h

theorem after?_mark_blockEnd : Text.after? mark blockEnd = none :=
  after?_mark_of_head (by decide)

/-- Every block declares one code. -/
theorem codes_deadKeyBlock (layout : Layout) (dk : DeadKey) :
    (deadKeyBlock layout dk).filterMap (Text.after? mark) = [deadKeyCode dk] := by
  have hlines : (blockLines layout dk).filterMap (Text.after? mark) = [] :=
    List.filterMap_eq_nil_iff.mpr fun _ => after?_mark_of_mem_blockLines
  simp only [deadKeyBlock_eq, List.filterMap_append, List.filterMap_cons, List.filterMap_nil,
    after?_mark_heading, after?_mark_declaration, hlines, after?_mark_blockEnd]
  rfl

theorem codes_deadKeyLines (layout : Layout) :
    (deadKeyLines layout).filterMap (Text.after? mark) = layout.deadKeys.map deadKeyCode := by
  unfold deadKeyLines
  rw [Sectioned.filterMap_blocks rfl, List.flatMap_map]
  simp only [codes_deadKeyBlock]
  exact List.map_eq_flatMap.symm

/-- The name of a dead key stands behind its code and a tab. -/
theorem nameLine_eq (dk : DeadKey) :
    deadKeyCode dk ++ "\t\"".toList ++ Text.upper dk.name ++ ['"'] =
      deadKeyCode dk ++ '\t' :: ('"' :: (Text.upper dk.name ++ ['"'])) := by
  simp

theorem codes_nameLines (layout : Layout) :
    (nameLines layout).map (·.takeWhile (· != '\t')) = layout.deadKeys.map deadKeyCode := by
  have hcode : ∀ dk, ∀ c ∈ deadKeyCode dk, (c != '\t') = true := by
    intro dk c hc
    have htab : '\t' ∉ deadKeyCode dk := Text.not_mem_hex rfl
    exact bne_iff_ne.mpr fun heq => htab (heq ▸ hc)
  unfold nameLines
  rw [List.map_map]
  refine List.map_congr_left fun dk _ => ?_
  rw [Function.comp_apply, nameLine_eq, List.takeWhile_append_of_pos (hcode dk)]
  simp

/-! ## Every reference is resolved -/

theorem altSpaces_builtin : (Registry.builtin.deadKeys.map (·.altSpace)).Nodup := by
  decide

theorem map_code_complete :
    drawn.complete.deadKeys.map deadKeyCode = drawn.deadKeys.map deadKeyCode := by
  simp [Layout.complete, deadKeyCode, Function.comp_def]

/-- Different dead keys have different codes. -/
theorem nodup_codes (h : drawn.Drawn Registry.builtin) :
    (drawn.complete.deadKeys.map deadKeyCode).Nodup := by
  rw [map_code_complete]
  refine List.pairwise_map.mpr ((List.pairwise_map.mp h.orderly.nodup).imp_of_mem ?_)
  intro dk other hdk hother hne heq
  refine hne (congrArg DeadKey.marker ?_)
  exact List.inj_on_of_nodup_map altSpaces_builtin (h.mem_builtin hdk) (h.mem_builtin hother)
    (Text.hex_inj heq)

/-- The codes of the dead keys that the symbols of a layout stand for, in the order in which its
source draws them for the first time. -/
def usedCodes (layout : Layout) : List Text :=
  (layout.typed.filterMap layout.registry.deadKey?).eraseDups.map deadKeyCode

theorem codes_eq_usedCodes (h : drawn.Drawn Registry.builtin) :
    drawn.complete.deadKeys.map deadKeyCode = usedCodes drawn.complete := by
  obtain ⟨name, hboard⟩ := h.board
  have hkeys := (Registry.drawable_of_builtin hboard).1.nodup_keys
  rw [map_code_complete, h.deadKeys_eq hkeys, ← h.registry_eq]
  rfl

/-- A code is declared as often as it is among the codes. -/
theorem count_declarations (layout : Layout) (code : Text) :
    (deadKeyLines layout).count (mark ++ code) = (layout.deadKeys.map deadKeyCode).count code := by
  have hline : ∀ line : Text, (line == mark ++ code) = (Text.after? mark line == some code) := by
    intro line
    rw [Bool.eq_iff_iff, beq_iff_eq, beq_iff_eq, Text.after?_eq_some_iff]
  rw [← codes_deadKeyLines, List.count_filterMap, List.count]
  exact List.countP_congr fun line _ => by rw [hline]

/-- A code is named as often as it is among the codes. -/
theorem countP_names (layout : Layout) {code : Text} (h : '\t' ∉ code) :
    (nameLines layout).countP ((code ++ ['\t']).isPrefixOf ·) =
      (layout.deadKeys.map deadKeyCode).count code := by
  unfold nameLines
  rw [List.countP_map, List.count, List.countP_map]
  refine List.countP_congr fun dk _ => ?_
  have hdk : '\t' ∉ deadKeyCode dk := Text.not_mem_hex rfl
  rw [Function.comp_apply, Function.comp_apply, nameLine_eq, List.isPrefixOf_iff_prefix, beq_iff_eq]
  constructor
  · rintro ⟨rest, hrest⟩
    have hcolumns := congrArg columns hrest
    rw [List.append_assoc, List.singleton_append, columns_append_tab h,
      columns_append_tab hdk] at hcolumns
    exact (List.cons.inj hcolumns).1.symm
  · rintro rfl
    exact ⟨'"' :: (Text.upper dk.name ++ ['"']), by simp⟩

/-- **Every reference to a dead key is resolved.** Whatever code a symbol of the layout table or the
result of a pair refers to, exactly one block declares it and exactly one line of the index names
it. Blocks and index list the same codes, those of the dead keys that the source draws, in the order
of their first use. -/
theorem references_resolved {t : Text} (h : Layout.ofText Registry.builtin t = .ok layout) :
    (∀ code, Refers layout code →
        (deadKeyLines layout).count (mark ++ code) = 1
          ∧ (nameLines layout).countP ((code ++ ['\t']).isPrefixOf ·) = 1)
      ∧ (deadKeyLines layout).filterMap (Text.after? mark) = usedCodes layout
      ∧ (nameLines layout).map (·.takeWhile (· != '\t')) = usedCodes layout := by
  obtain ⟨drawn, hdrawn, rfl⟩ := Layout.drawn_of_ofText h
  refine ⟨fun code hrefers => ?_, ?_, ?_⟩
  · have hmem := mem_codes_of_refers hdrawn hrefers
    have hone := List.count_eq_one_of_mem (nodup_codes hdrawn) hmem
    have htab : '\t' ∉ code := by
      obtain ⟨dk, -, rfl⟩ := List.mem_map.mp hmem
      exact Text.not_mem_hex rfl
    rw [count_declarations, countP_names _ htab]
    exact ⟨hone, hone⟩
  · rw [codes_deadKeyLines, codes_eq_usedCodes hdrawn]
  · rw [codes_nameLines, codes_eq_usedCodes hdrawn]

instance (layout : Layout) (code : Text) : Decidable (Refers layout code) :=
  inferInstanceAs (Decidable (_ ∨ _))

/-- A key types the layout's own dead key, which alone leads to the acute accent. -/
theorem references_resolved_chained :
    ∃ layout, Layout.ofText Registry.builtin
        (Layout.sketch [(5, 8, '\u20e1'), (5, 14, 'a'), (5, 16, '\u0301')] []) = .ok layout
      ∧ (∀ code ∈ ["00a4".toList, "00b4".toList], Refers layout code
        ∧ (deadKeyLines layout).count (mark ++ code) = 1
        ∧ (nameLines layout).countP ((code ++ ['\t']).isPrefixOf ·) = 1)
      ∧ (deadKeyLines layout).filterMap (Text.after? mark) = ["00a4".toList, "00b4".toList]
      ∧ (nameLines layout).map (·.takeWhile (· != '\t')) = ["00a4".toList, "00b4".toList] := by
  obtain ⟨layout, h, hchecked⟩ := Layout.exists_of_any_toOption Registry.builtin
    (Layout.sketch [(5, 8, '\u20e1'), (5, 14, 'a'), (5, 16, '\u0301')] [])
    (fun layout => decide ((∀ code ∈ ["00a4".toList, "00b4".toList], Refers layout code)
      ∧ usedCodes layout = ["00a4".toList, "00b4".toList]))
    (by decide +kernel)
  obtain ⟨hrefers, hcodes⟩ := of_decide_eq_true hchecked
  obtain ⟨hresolved, hblocks, hnames⟩ := references_resolved h
  refine ⟨layout, h, fun code hcode => ?_, hblocks.trans hcodes, hnames.trans hcodes⟩
  exact ⟨hrefers code hcode, hresolved code (hrefers code hcode)⟩

end KeyboardLayout.Klc
