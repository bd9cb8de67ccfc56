import KeyboardLayout.Proofs.DeadKeyTables
import KeyboardLayout.Proofs.KlcDeadKeys

/-!
# Dead-key blocks read back

A reader of a Windows source finds a block behind each declaration: the lines of a table, among
them blank lines and the titles of sections, and two closing lines for the no-break space and the
space. `blocks_list_tables` says what it finds: the tables of the dead keys, row by row. The table
of a layout-defined dead key is there in two ways, in the dead key itself, where it was put key by
key, and in the block, which goes through the sections anew; both have the same rows in the same
order (`filter_derivedLines`).

Which codes a block leads from is another question. The rows of an accent start from different
letters, but those of the layout's own dead key start from whatever the keys show, so that a symbol
on two keys, or a no-break space, is defined twice (`nodup_baseCodes_iff`).
-/

namespace KeyboardLayout.Klc

variable {registry : Registry} {layout drawn : Layout} {dk : DeadKey} {line : Text}

/-! ## A reader of blocks -/

/-- A block as it is read: the code that it declares and the lines from there to its end. -/
structure ReadBlock where
  code : Text
  lines : List Text
  deriving DecidableEq, Repr

def readBlocks : List Text → List ReadBlock
  | [] => []
  | line :: rest =>
    match Text.after? mark line with
    | some code => ⟨code, rest.takeWhile (· != blockEnd)⟩ :: readBlocks rest
    | none => readBlocks rest

/-- The line is neither blank nor the title of a section. -/
def isPairLine (line : Text) : Bool :=
  !line.isEmpty && !(Key.sections.map fun group => Sectioned.slashTitle group.title).contains line

namespace ReadBlock

/-- The lines before the two closing ones. -/
def table (block : ReadBlock) : List Text :=
  block.lines.take (block.lines.length - 2)

def closing (block : ReadBlock) : List Text :=
  block.lines.drop (block.lines.length - 2)

/-- The first column of every pair, those of the closing lines included. -/
def baseCodes (block : ReadBlock) : List Text :=
  (block.lines.filter isPairLine).map fun line => line.takeWhile (· != '\t')

/-- The block is that of the dead key and has the rows of its table. -/
structure Shows (layout : Layout) (dk : DeadKey) (block : ReadBlock) : Prop where
  code_eq : block.code = deadKeyCode dk
  table_eq : block.table.filter isPairLine = dk.pairs.map fun row => pairLine layout row.1 row.2
  closing_eq : block.closing =
    [pairLine layout '\u00a0' dk.altSpace, pairLine layout ' ' dk.altSpace]

end ReadBlock

/-! ## Reading a block -/

theorem tab_mem_pairLine (layout : Layout) (base alt : Char) : '\t' ∈ pairLine layout base alt := by
  simp [pairLine]

theorem isPairLine_pairLine (layout : Layout) (base alt : Char) :
    isPairLine (pairLine layout base alt) = true := by
  have htab := tab_mem_pairLine layout base alt
  have hnil : pairLine layout base alt ≠ [] := List.ne_nil_of_mem htab
  have htitle : pairLine layout base alt ∉
      Key.sections.map fun group => Sectioned.slashTitle group.title := by
    intro hmem
    obtain ⟨group, hgroup, heq⟩ := List.mem_map.mp hmem
    exact tab_not_mem_titles group hgroup (heq ▸ htab)
  simp [isPairLine, hnil, htitle]

theorem isPairLine_title : ∀ group ∈ Key.sections,
    isPairLine (Sectioned.slashTitle group.title) = false := by
  decide

theorem ne_blockEnd : ∀ line ∈ blockLines layout dk, (line != blockEnd) = true := by
  refine forall_mem_blockLines (by decide) (by decide) fun base alt => bne_iff_ne.mpr fun heq => ?_
  have htab : '\t' ∉ blockEnd := by decide
  exact htab (heq ▸ tab_mem_pairLine layout base alt)

theorem readBlocks_append {front : List Text} (h : ∀ line ∈ front, Text.after? mark line = none)
    (rest : List Text) : readBlocks (front ++ rest) = readBlocks rest := by
  induction front with
  | nil => rfl
  | cons line front ih =>
      obtain ⟨hline, hfront⟩ := List.forall_mem_cons.mp h
      rw [List.cons_append, readBlocks, hline]
      exact ih hfront

/-- A block is read whatever follows it. -/
theorem readBlocks_deadKeyBlock (layout : Layout) (dk : DeadKey) (rest : List Text) :
    readBlocks (deadKeyBlock layout dk ++ rest) =
      ⟨deadKeyCode dk, blockLines layout dk⟩ :: readBlocks rest := by
  have hlines : (blockLines layout dk ++ blockEnd :: rest).takeWhile (· != blockEnd) =
      blockLines layout dk := by
    rw [List.takeWhile_append_of_pos ne_blockEnd, List.takeWhile_cons_of_neg (by simp),
      List.append_nil]
  rw [deadKeyBlock_eq, List.cons_append, List.cons_append, List.append_assoc (blockLines _ _),
    List.singleton_append, readBlocks, after?_mark_heading, readBlocks, after?_mark_declaration]
  simp only [hlines]
  rw [readBlocks_append (fun _ => after?_mark_of_mem_blockLines), readBlocks, after?_mark_blockEnd]

theorem readBlocks_deadKeyLines (layout : Layout) :
    readBlocks (deadKeyLines layout) =
      layout.deadKeys.map fun dk => ⟨deadKeyCode dk, blockLines layout dk⟩ := by
  unfold deadKeyLines
  induction layout.deadKeys with
  | nil => rfl
  | cons dk rest ih =>
      cases rest with
      | nil =>
          have hblock := readBlocks_deadKeyBlock layout dk []
          rw [List.append_nil] at hblock
          simpa [Sectioned.blocks, readBlocks] using hblock
      | cons next rest =>
          rw [List.map_cons, List.map_cons, Sectioned.blocks_cons_cons, readBlocks_deadKeyBlock,
            readBlocks, ← List.map_cons, ih, List.map_cons]
          rfl

/-! ## The rows of a table -/

theorem filter_map_pairLine (layout : Layout) (rows : List (Char × Char)) :
    (rows.map fun row => pairLine layout row.1 row.2).filter isPairLine =
      rows.map fun row => pairLine layout row.1 row.2 := by
  refine List.filter_eq_self.mpr fun line hline => ?_
  obtain ⟨row, -, rfl⟩ := List.mem_map.mp hline
  exact isPairLine_pairLine ..

/-- Without its title, the block of a section has the rows that start from its keys. -/
theorem filter_block (layout : Layout) (start final : Level) {group : KeySection}
    (h : group ∈ Key.sections) :
    (Sectioned.block Sectioned.slashTitle (fun key =>
        ((layout.symbolPair? start final key).map fun row =>
          pairLine layout row.1 row.2).toList) group).filter isPairLine =
      (group.keys.filterMap (layout.symbolPair? start final)).map fun row =>
        pairLine layout row.1 row.2 := by
  rw [Sectioned.block, List.filter_cons_of_neg (by rw [isPairLine_title group h]; decide),
    ← List.filterMap_eq_flatMap_toList, ← List.map_filterMap, filter_map_pairLine]

/-- **The table of a layout-defined dead key** is the same whether it is put together key by key or
section by section. -/
theorem filter_derivedLines (layout : Layout) :
    (derivedLines layout).filter isPairLine =
      layout.derivedPairs.map fun row => pairLine layout row.1 row.2 := by
  have hlevels : ∀ levels : Level × Level,
      (Key.sections.flatMap fun group => (group.keys.filterMap
          (layout.symbolPair? levels.1 levels.2)).map fun row => pairLine layout row.1 row.2) =
        (Key.all.filterMap (layout.symbolPair? levels.1 levels.2)).map fun row =>
          pairLine layout row.1 row.2 := by
    intro levels
    rw [Key.all, List.filterMap_flatMap, List.map_flatMap]
  unfold derivedLines Layout.derivedPairs
  rw [Sectioned.filter_blocks rfl, List.flatMap_assoc, List.map_flatMap]
  refine List.flatMap_congr fun levels _ => ?_
  rw [List.flatMap_map, ← hlevels]
  exact List.flatMap_congr fun group hgroup => filter_block layout levels.1 levels.2 hgroup

/-- The block of a dead key has the rows of its table, if a layout-defined one has its own. -/
theorem filter_pairLines (h : dk.isLayoutDefined = true → dk.pairs = layout.derivedPairs) :
    (pairLines layout dk).filter isPairLine = dk.pairs.map fun row =>
      pairLine layout row.1 row.2 := by
  unfold pairLines
  split
  · rename_i hdefined
    rw [filter_derivedLines, h hdefined]
  · exact filter_map_pairLine layout dk.pairs

theorem filter_tableLines (hdk : dk ∈ drawn.complete.deadKeys) :
    (tableLines drawn.complete dk).filter isPairLine = dk.pairs.map fun row =>
      pairLine drawn.complete row.1 row.2 := by
  have hblank : isPairLine [] = false := rfl
  have hpairs : dk.isLayoutDefined = true → dk.pairs = drawn.complete.derivedPairs :=
    @Layout.pairs_of_isLayoutDefined drawn dk hdk
  simp [tableLines, hblank, filter_pairLines hpairs]

theorem length_blockLines_sub (layout : Layout) (dk : DeadKey) :
    (blockLines layout dk).length - 2 = (tableLines layout dk).length := by
  rw [blockLines, List.length_append]
  rfl

/-! ## A letter on two keys -/

/-- What the rows of the layout's own table start from, as the comments of a block show it. -/
def ownBases (layout : Layout) : List Char :=
  layout.derivedPairs.map fun row => shown layout row.1

/-- A source in which the letter of two keys leads to both of their symbols by way of the layout's
own dead key. A third key types the acute accent. -/
def doubled : Text :=
  Layout.sketch [(5, 8, 'a'), (5, 10, 'â'), (5, 14, 'a'), (5, 16, 'ä'), (5, 20, '\u0301')]
    [(5, 10, '\u20e1')]

theorem exists_of_doubled :
    ∃ layout, Layout.ofText Registry.builtin doubled = .ok layout
      ∧ layout.deadKeys.map (·.isLayoutDefined) = [false, true]
      ∧ layout.derivedPairs = [('a', 'â'), ('a', 'ä'), ('A', 'Â'), ('A', 'Ä')]
      ∧ ownBases layout = ['a', 'a', 'A', 'A'] := by
  obtain ⟨layout, h, hchecked⟩ := Layout.exists_of_any_toOption Registry.builtin doubled
    (fun layout => decide (layout.deadKeys.map (·.isLayoutDefined) = [false, true]
      ∧ layout.derivedPairs = [('a', 'â'), ('a', 'ä'), ('A', 'Â'), ('A', 'Ä')]
      ∧ ownBases layout = ['a', 'a', 'A', 'A']))
    (by decide +kernel)
  exact ⟨layout, h, of_decide_eq_true hchecked⟩

/-! ## The tables of the blocks -/

/-- **Dead-key blocks list the tables.** Read back, the blocks of a layout from a text are those of
its dead keys, one by one. Between its declaration and its closing lines each has the rows of the
dead key's table in their order, and nothing else but blank lines and section titles. The rows that
the listing puts together for a layout-defined dead key are those of its table. -/
theorem blocks_list_tables {t : Text} (h : Layout.ofText registry t = .ok layout) :
    List.Forall₂ (ReadBlock.Shows layout) layout.deadKeys (readBlocks (deadKeyLines layout))
      ∧ (derivedLines layout).filter isPairLine =
          layout.derivedPairs.map fun row => pairLine layout row.1 row.2 := by
  obtain ⟨drawn, -, rfl⟩ := Layout.drawn_of_ofText h
  refine ⟨?_, filter_derivedLines _⟩
  rw [readBlocks_deadKeyLines, List.forall₂_map_right_iff, List.forall₂_same]
  intro dk hdk
  refine ⟨rfl, ?_, ?_⟩
  · rw [ReadBlock.table, length_blockLines_sub, blockLines, List.take_left]
    exact filter_tableLines hdk
  · rw [ReadBlock.closing, length_blockLines_sub, blockLines, List.drop_left]
    rfl

/-- The rows of both keys are listed, and so are those of the shifted letter. -/
theorem blocks_list_tables_doubled :
    ∃ layout, Layout.ofText Registry.builtin doubled = .ok layout
      ∧ List.Forall₂ (ReadBlock.Shows layout) layout.deadKeys (readBlocks (deadKeyLines layout))
      ∧ (derivedLines layout).filter isPairLine =
          [pairLine layout 'a' 'â', pairLine layout 'a' 'ä', pairLine layout 'A' 'Â',
            pairLine layout 'A' 'Ä'] := by
  obtain ⟨layout, h, -, hpairs, -⟩ := exists_of_doubled
  obtain ⟨hblocks, hderived⟩ := blocks_list_tables h
  rw [hpairs] at hderived
  exact ⟨layout, h, hblocks, hderived⟩

/-! ## The codes that a block leads from -/

theorem takeWhile_pairLine (layout : Layout) (base alt : Char) :
    (pairLine layout base alt).takeWhile (· != '\t') = Text.hex (shown layout base) := by
  have hcode : ∀ c ∈ Text.hex (shown layout base), (c != '\t') = true := by
    intro c hc
    exact bne_iff_ne.mpr fun heq => Text.not_mem_hex rfl (heq ▸ hc)
  rw [pairLine_eq, List.takeWhile_append_of_pos hcode]
  simp

theorem builtin_letters : ∀ dk ∈ Registry.builtin.deadKeys, ∀ row ∈ dk.pairs,
    row.1.isAlpha = true := by
  rw [Registry.builtin_deadKeys]
  decide

theorem builtin_markers : ∀ dk ∈ Registry.builtin.deadKeys,
    dk.marker.isAlpha = false ∧ dk.marker ≠ '\u00a0' ∧ dk.marker ≠ ' ' ∧ dk.altSpace ≠ ' ' := by
  decide

theorem shown_cases (h : drawn.Drawn Registry.builtin) (c : Char) :
    shown drawn.complete c = c ∨ ∃ known ∈ Registry.builtin.deadKeys,
      known.marker = c ∧ shown drawn.complete c = known.altSpace := by
  unfold shown
  rw [Layout.deadKey?_complete]
  cases hdk : drawn.deadKey? c with
  | none => exact Or.inl rfl
  | some known =>
      obtain ⟨hmem, hmarker⟩ := Layout.mem_of_deadKey? hdk
      exact Or.inr ⟨known, h.mem_builtin hmem, hmarker, Layout.altSpace_completeDeadKey⟩

theorem shown_of_ne_marker (h : drawn.Drawn Registry.builtin) {c : Char}
    (hc : ∀ known ∈ Registry.builtin.deadKeys, known.marker ≠ c) : shown drawn.complete c = c :=
  (shown_cases h c).resolve_right fun ⟨known, hknown, hmarker, _⟩ => hc known hknown hmarker

/-- No key shows a blank. -/
theorem blank_not_mem_ownBases (h : drawn.Drawn Registry.builtin) :
    ' ' ∉ ownBases drawn.complete := by
  intro hmem
  obtain ⟨row, hrow, hblank⟩ := List.mem_map.mp hmem
  obtain ⟨key, level, hsymbol⟩ := Layout.exists_symbol_of_mem_derivedPairs hrow
  rcases shown_cases h row.1 with heq | ⟨known, hknown, -, heq⟩
  · exact h.orderly.symbol_ne_blank key level (hsymbol.trans (congrArg some (heq.symm.trans hblank)))
  · exact (builtin_markers known hknown).2.2.2 (heq.symm.trans hblank)

/-- The rows of an accent start from letters. -/
theorem isAlpha_of_accent (h : drawn.Drawn Registry.builtin) (hdk : dk ∈ drawn.complete.deadKeys)
    (hdefined : dk.isLayoutDefined = false) {row : Char × Char} (hrow : row ∈ dk.pairs) :
    row.1.isAlpha = true := by
  obtain ⟨known, hknown, rfl⟩ := List.mem_map.mp hdk
  rw [Layout.isLayoutDefined_completeDeadKey] at hdefined
  rw [Layout.completeDeadKey, hdefined, if_neg Bool.false_ne_true, DeadKey.pairs_keepBases] at hrow
  exact builtin_letters known (h.mem_builtin hknown) row (List.mem_filter.mp hrow).1

theorem map_shown_of_accent (h : drawn.Drawn Registry.builtin)
    (hdk : dk ∈ drawn.complete.deadKeys) (hdefined : dk.isLayoutDefined = false) :
    (dk.pairs.map fun row => shown drawn.complete row.1) = dk.pairs.map Prod.fst := by
  refine List.map_congr_left fun row hrow => shown_of_ne_marker h fun known hknown heq => ?_
  have hletter := isAlpha_of_accent h hdk hdefined hrow
  rw [← heq, (builtin_markers known hknown).1] at hletter
  cases hletter

theorem nodup_append_closing {bases : List Char} :
    (bases ++ ['\u00a0', ' ']).Nodup ↔ bases.Nodup ∧ '\u00a0' ∉ bases ∧ ' ' ∉ bases := by
  rw [List.nodup_append]
  constructor
  · rintro ⟨hbases, -, hne⟩
    exact ⟨hbases, fun hmem => hne _ hmem _ (by simp) rfl, fun hmem => hne _ hmem _ (by simp) rfl⟩
  · rintro ⟨hbases, hnbsp, hblank⟩
    refine ⟨hbases, by decide, fun c hc d hd heq => ?_⟩
    subst heq
    rcases List.mem_pair.mp hd with rfl | rfl
    · exact hnbsp hc
    · exact hblank hc

/-- The codes of a block are those of the characters that its rows start from, then those of its
closing lines. -/
theorem baseCodes_block (h : drawn.Drawn Registry.builtin) (hdk : dk ∈ drawn.complete.deadKeys) :
    (ReadBlock.mk (deadKeyCode dk) (blockLines drawn.complete dk)).baseCodes =
      ((dk.pairs.map fun row => shown drawn.complete row.1) ++ ['\u00a0', ' ']).map Text.hex := by
  have hnbsp := shown_of_ne_marker h fun known hknown => (builtin_markers known hknown).2.1
  have hspace := shown_of_ne_marker h fun known hknown => (builtin_markers known hknown).2.2.1
  have hclosing : (closingLines drawn.complete dk).filter isPairLine =
      closingLines drawn.complete dk := by
    simp [closingLines, isPairLine_pairLine]
  rw [ReadBlock.baseCodes, blockLines, List.filter_append, hclosing, filter_tableLines hdk]
  simp [closingLines, takeWhile_pairLine, hnbsp, hspace, Function.comp_def]

theorem baseCodes_own (h : drawn.Drawn Registry.builtin) (hdk : dk ∈ drawn.complete.deadKeys)
    (hdefined : dk.isLayoutDefined = true) :
    (ReadBlock.mk (deadKeyCode dk) (blockLines drawn.complete dk)).baseCodes =
      (ownBases drawn.complete ++ ['\u00a0', ' ']).map Text.hex := by
  rw [baseCodes_block h hdk, Layout.pairs_of_isLayoutDefined hdk hdefined]
  rfl

/-- **The codes of a dead-key block** of a layout from a text are distinct for every accent. For the
layout's own dead key they are distinct exactly if no two of its rows start from characters that are
shown alike and none from a no-break space. -/
theorem nodup_baseCodes_iff {t : Text} (h : Layout.ofText Registry.builtin t = .ok layout) :
    List.Forall₂
      (fun dk block => block.code = deadKeyCode dk
        ∧ (block.baseCodes.Nodup ↔ (dk.isLayoutDefined = true →
            (ownBases layout).Nodup ∧ '\u00a0' ∉ ownBases layout)))
      layout.deadKeys (readBlocks (deadKeyLines layout)) := by
  obtain ⟨drawn, hdrawn, rfl⟩ := Layout.drawn_of_ofText h
  rw [readBlocks_deadKeyLines, List.forall₂_map_right_iff, List.forall₂_same]
  intro dk hdk
  refine ⟨rfl, ?_⟩
  have hhex : Function.Injective Text.hex := fun _ _ => Text.hex_inj
  rw [baseCodes_block hdrawn hdk, List.nodup_map_iff hhex, nodup_append_closing]
  obtain ⟨hdefined, hpairs⟩ | ⟨hdefined, hbases⟩ := Layout.pairs_cases hdrawn hdk
  · rw [hpairs]
    have hblank := blank_not_mem_ownBases hdrawn
    exact ⟨fun hcodes _ => ⟨hcodes.1, hcodes.2.1⟩,
      fun hown => ⟨(hown hdefined).1, (hown hdefined).2, hblank⟩⟩
  · rw [map_shown_of_accent hdrawn hdk hdefined]
    have hletter : ∀ c ∈ dk.pairs.map Prod.fst, c.isAlpha = true := by
      intro c hc
      obtain ⟨row, hrow, rfl⟩ := List.mem_map.mp hc
      exact isAlpha_of_accent hdrawn hdk hdefined hrow
    refine ⟨fun _ htrue => ?_, fun _ => ⟨hbases, fun hmem => ?_, fun hmem => ?_⟩⟩
    · rw [hdefined] at htrue
      cases htrue
    · exact absurd (hletter _ hmem) (by decide)
    · exact absurd (hletter _ hmem) (by decide)

/-- The accent's block has each code once, the block of the layout's own dead key has not. -/
theorem nodup_baseCodes_doubled :
    ∃ layout accent own, Layout.ofText Registry.builtin doubled = .ok layout
      ∧ readBlocks (deadKeyLines layout) = [accent, own]
      ∧ accent.baseCodes.Nodup ∧ ¬own.baseCodes.Nodup := by
  obtain ⟨layout, h, hdefined, -, hbases⟩ := exists_of_doubled
  have hall := nodup_baseCodes_iff h
  obtain ⟨accent, rest, hdks, haccent, hrest⟩ := List.map_eq_cons_iff.mp hdefined
  obtain ⟨own, rest, rfl, hown, hnil⟩ := List.map_eq_cons_iff.mp hrest
  obtain rfl := List.map_eq_nil_iff.mp hnil
  rw [hdks] at hall
  obtain ⟨accentBlock, blocks, ⟨-, haccentCodes⟩, hown', hblocks⟩ :=
    List.forall₂_cons_left_iff.mp hall
  obtain ⟨ownBlock, blocks, ⟨-, hownCodes⟩, hrest, rfl⟩ := List.forall₂_cons_left_iff.mp hown'
  obtain rfl := List.forall₂_nil_left_iff.mp hrest
  refine ⟨layout, accentBlock, ownBlock, h, hblocks, haccentCodes.mpr fun htrue => ?_,
    fun hnodup => ?_⟩
  · rw [haccent] at htrue
    cases htrue
  · have hnodup := (hownCodes.mp hnodup hown).1
    rw [hbases] at hnodup
    simp at hnodup

/-- The letter of two keys leads to both of their symbols, and so does its capital. -/
theorem not_nodup_baseCodes_doubled :
    ∃ layout block, Layout.ofText Registry.builtin doubled = .ok layout
      ∧ block ∈ readBlocks (deadKeyLines layout)
      ∧ block.baseCodes = ["0061".toList, "0061".toList, "0041".toList, "0041".toList,
          "00a0".toList, "0020".toList]
      ∧ ¬block.baseCodes.Nodup := by
  obtain ⟨layout, h, hdefined, -, hbases⟩ := exists_of_doubled
  obtain ⟨drawn, hdrawn, rfl⟩ := Layout.drawn_of_ofText h
  obtain ⟨dk, hdk, htrue⟩ := List.mem_map.mp
    (hdefined ▸ by decide : true ∈ drawn.complete.deadKeys.map (·.isLayoutDefined))
  have hcodes := baseCodes_own hdrawn hdk htrue
  rw [hbases] at hcodes
  refine ⟨drawn.complete, ⟨deadKeyCode dk, blockLines drawn.complete dk⟩, h, ?_, hcodes,
    hcodes ▸ by decide⟩
  rw [readBlocks_deadKeyLines]
  exact List.mem_map_of_mem hdk

end KeyboardLayout.Klc
