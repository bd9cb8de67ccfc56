import KeyboardLayout.Klc
import KeyboardLayout.Proofs.InertLines
import KeyboardLayout.Proofs.KeylayoutElements
import KeyboardLayout.Proofs.Redrawing
import KeyboardLayout.Proofs.XkbStatements

/-!
# The lines of the views

Whatever a layout types, no marker and no token begins in the lines of its views: every line is
written in the characters that the layout shows (`Legible`) and in ordinary ones. What a layout from
a text types by itself is no mark and no line feed, so that its lines are verbatim
(`Drawn.legible_complete`). Only the keymap for Caps Lock spells characters by their uppercase,
which may hold marks.
-/

namespace KeyboardLayout

open Text

namespace Layout

variable {layout drawn : Layout} {dk : DeadKey} {c : Char} {p : Char → Prop}

/-! ## Characters that lines show -/

/-- The dead keys are the built-in ones but for their tables, and whatever else the layout or a
table shows is among the characters. -/
structure Legible (p : Char → Prop) (layout : Layout) : Prop where
  admits : Admits p
  registry_eq : layout.registry = Registry.builtin
  known : ∀ dk ∈ layout.deadKeys, ∃ known ∈ Registry.builtin.deadKeys, dk.name = known.name
    ∧ dk.xkbSymbol = known.xkbSymbol ∧ dk.altSpace = known.altSpace ∧ dk.altSelf = known.altSelf
  stored : ∀ key level c, layout.symbol key level = some c → layout.deadKey? c = none → p c
  paired : ∀ dk ∈ layout.deadKeys, ∀ pair ∈ dk.pairs,
    (layout.deadKey? pair.1 = none → p pair.1) ∧ (layout.deadKey? pair.2 = none → p pair.2)

theorem builtin_inline : ∀ dk ∈ Registry.builtin.deadKeys,
    Quiet dk.name ∧ Quiet dk.xkbSymbol ∧ Inline dk.altSpace ∧ Inline dk.altSelf
      ∧ ∀ pair ∈ dk.pairs, Inline pair.1 ∧ Inline pair.2 := by
  rw [Registry.builtin_deadKeys]
  decide

theorem exists_of_mem_derivedPairs {pair : Char × Char} (h : pair ∈ layout.derivedPairs) :
    ∃ key level level', layout.symbol key level = some pair.1
      ∧ layout.symbol key level' = some pair.2 := by
  obtain ⟨levels, -, hin⟩ := List.mem_flatMap.mp h
  obtain ⟨key, -, hpair⟩ := List.mem_filterMap.mp hin
  exact ⟨key, _, _, symbolPair?_eq_some_iff.mp hpair⟩

theorem Drawn.inline_symbol (h : drawn.Drawn Registry.builtin) {key : Key} {level : Level}
    (hc : drawn.symbol key level = some c) (hnone : drawn.deadKey? c = none) : Inline c := by
  obtain ⟨name, hboard⟩ := h.board
  have hfeed := h.shown_ne_feed (Registry.drawable_of_builtin hboard).1.nodup_keys key level
  rw [Drawing.shown, hc] at hfeed
  refine ⟨hfeed, Bool.eq_false_iff.mpr fun hmark => ?_⟩
  have hdead := h.orderly.noted key level c hc (Or.inr hmark)
  rw [isDeadKey, hnone] at hdead
  cases hdead

theorem deadKey?_complete_eq_none :
    drawn.complete.deadKey? c = none ↔ drawn.deadKey? c = none := by
  rw [deadKey?_complete, Option.map_eq_none_iff]

/-- A layout from a text is legible in ordinary characters. -/
theorem Drawn.legible_complete (h : drawn.Drawn Registry.builtin) :
    drawn.complete.Legible Inline where
  admits := fun _ hc => hc
  registry_eq := h.registry_eq
  known := by
    intro dk hdk
    obtain ⟨known, hknown, rfl⟩ := List.mem_map.mp hdk
    exact ⟨known, h.mem_builtin hknown, name_completeDeadKey, xkbSymbol_completeDeadKey,
      altSpace_completeDeadKey, altSelf_completeDeadKey⟩
  stored := fun key level c hc hnone => h.inline_symbol hc (deadKey?_complete_eq_none.mp hnone)
  paired := by
    intro dk hdk pair hpair
    obtain ⟨known, hknown, rfl⟩ := List.mem_map.mp hdk
    unfold completeDeadKey at hpair
    split at hpair
    · rw [DeadKey.pairs_withPairs] at hpair
      obtain ⟨key, level, level', hbase, halt⟩ := exists_of_mem_derivedPairs hpair
      exact ⟨fun hnone => h.inline_symbol hbase (deadKey?_complete_eq_none.mp hnone),
        fun hnone => h.inline_symbol halt (deadKey?_complete_eq_none.mp hnone)⟩
    · rw [DeadKey.pairs_keepBases] at hpair
      have hpairs := (builtin_inline known (h.mem_builtin hknown)).2.2.2.2
      have hinline := hpairs pair (List.mem_filter.mp hpair).1
      exact ⟨fun _ => hinline.1, fun _ => hinline.2⟩

section

variable (h : layout.Legible p) (hdk : dk ∈ layout.deadKeys)
include h hdk

theorem Legible.name : Quiet dk.name := by
  obtain ⟨known, hknown, hname, -⟩ := h.known dk hdk
  exact hname ▸ (builtin_inline known hknown).1

theorem Legible.xkbSymbol : Quiet dk.xkbSymbol := by
  obtain ⟨known, hknown, -, hxkb, -⟩ := h.known dk hdk
  exact hxkb ▸ (builtin_inline known hknown).2.1

theorem Legible.altSpace : p dk.altSpace := by
  obtain ⟨known, hknown, -, -, hspace, -⟩ := h.known dk hdk
  exact h.admits _ (hspace ▸ (builtin_inline known hknown).2.2.1)

theorem Legible.altSelf : p dk.altSelf := by
  obtain ⟨known, hknown, -, -, -, hself⟩ := h.known dk hdk
  exact h.admits _ (hself ▸ (builtin_inline known hknown).2.2.2.1)

end

end Layout

/-! ## Parts of lines -/

variable {p : Char → Prop}

theorem verbatim_titles : ∀ group ∈ Key.sections,
    Verbatim (Sectioned.slashTitle group.title) ∧ Verbatim (Sectioned.xmlTitle group.title) := by
  decide

/-- Characters after spaces. -/
theorem written_spaced {α : Type} {shown : α → Char} {items : List α} (hp : Admits p)
    (h : ∀ item ∈ items, p (shown item)) :
    Written p (items.flatMap fun item => [' ', shown item])
      ∧ Follows (items.flatMap fun item => [' ', shown item]) := by
  induction items with
  | nil => exact ⟨Written.nil, Follows.nil⟩
  | cons item rest ih =>
      obtain ⟨hrest, hfollows⟩ := ih fun item hitem => h item (List.mem_cons_of_mem _ hitem)
      have hspace : Written p [' '] := (by decide : Quiet [' ']).written hp
      have hitem := hspace.append (written_singleton.mpr (h item (List.mem_cons_self ..)))
        (Or.inl (by decide))
      rw [List.flatMap_cons]
      refine ⟨hitem.append hrest (Or.inr hfollows), fun b hb => ?_⟩
      cases hb
      decide

theorem trimRight_isPrefix (t : Text) : Text.trimRight t <+: t := by
  unfold Text.trimRight
  rw [← List.reverse_suffix, List.reverse_reverse]
  exact List.dropWhile_suffix _

/-- The characters that keys and dead keys are named with. -/
def nameChars : Text :=
  "abcdefghijklmnopqrstuvwxyz0123456789".toList

theorem quiet_upper {t : Text} (h : t.all nameChars.contains = true) : Quiet (Text.upper t) := by
  have hchars : nameChars.all fun c => decide (Quiet (upperChar c)) := by decide
  intro d hd
  obtain ⟨c, hc, hin⟩ := List.mem_flatMap.mp hd
  have hname : c ∈ nameChars := List.contains_iff_mem.mp (List.all_eq_true.mp h c hc)
  exact of_decide_eq_true (List.all_eq_true.mp hchars c hname) d hin

/-! ## XKB statements -/

namespace Xkb

variable {layout : Layout}

theorem quiet_reserved : ∀ t ∈ reserved, Quiet t := by
  intro t ht c hc
  have hname := isNameChar_of_mem_reserved ht c hc
  have hspecial : [':', '$', '\n'].all fun d => !isNameChar d := by decide
  have hlt : c.toNat < 0x300 := Nat.lt_trans (toNat_lt_of_isNameChar hname) (by decide)
  refine ⟨fun hmem => ?_, isMark_eq_false_of_lt hlt⟩
  have := List.all_eq_true.mp hspecial c hmem
  rw [hname] at this
  cases this

theorem quiet_symbol (h : layout.Legible p) (c : Char) : Quiet (symbol layout c) := by
  have hcode : Quiet ['U'] := by decide
  unfold symbol
  cases hdk : layout.deadKey? c with
  | some dk => exact h.xkbSymbol (Layout.mem_of_deadKey? hdk).1
  | none =>
      rw [h.registry_eq]
      cases hname : keysym? Registry.builtin c with
      | none => exact hcode.append (quiet_hexUpper c)
      | some name =>
          have hrow := Table.mem_of_get? (Option.filter_eq_some_iff.mp hname).1
          refine quiet_reserved name (List.mem_cons_of_mem _ (List.mem_append_right _ ?_))
          exact List.mem_map_of_mem (f := Prod.snd) hrow

theorem quiet_symbolAt (h : layout.Legible p) (key : Key) (level : Level) :
    Quiet (symbolAt layout key level) := by
  have hvoid : Quiet void := by decide
  unfold symbolAt
  cases layout.symbol key level with
  | none => exact hvoid
  | some c => exact quiet_symbol h c

theorem quiet_columns (h : layout.Legible p) (key : Key) (levels : List Level) :
    Quiet (columns layout key levels) := by
  refine quiet_join (by decide) fun column hcolumn => ?_
  obtain ⟨level, -, rfl⟩ := List.mem_map.mp hcolumn
  exact (quiet_symbolAt h key level).padRight symbolWidth

theorem quiet_names (key : Key) : Quiet (Text.upper key.name) := by
  have hnames : ∀ key ∈ Key.all, key.name.all nameChars.contains = true := by decide
  exact quiet_upper (hnames key (Key.mem_all key))

theorem quiet_statement (h : layout.Legible p) (key : Key) : Quiet (statement layout key) := by
  have hfixed : Quiet "key <".toList ∧ Quiet "> \x7b[ ".toList ∧ Quiet "],[ ".toList
      ∧ Quiet "]\x7d;".toList := by decide
  obtain ⟨hopening, hfirst, hsecond, hclosing⟩ := hfixed
  have hname := hopening.append (quiet_names key)
  have hbase := (hname.append hfirst).append
    (quiet_columns h key [.base, .shift, .deadKey, .deadKeyShift])
  have haltGr := (hbase.append hsecond).append (quiet_columns h key [.altGr, .altGrShift])
  exact haltGr.append hclosing

theorem legible_describedAt (h : layout.Legible p) (key : Key) (level : Level) :
    p (describedAt layout key level) := by
  have hspace : Inline ' ' := by decide
  unfold describedAt
  cases hc : layout.symbol key level with
  | none => exact h.admits _ hspace
  | some c =>
      rw [Option.map_some, Option.getD_some]
      unfold described
      cases hdk : layout.deadKey? c with
      | none => exact h.stored key level c hc hdk
      | some dk =>
          have hmem := (Layout.mem_of_deadKey? hdk).1
          simp only
          split
          · exact h.altSpace hmem
          · exact h.altSelf hmem

/-- Every line of an XKB listing is written in what the layout shows. -/
theorem written_lines (h : layout.Legible p) (d : Bool) :
    ∀ line ∈ lines layout d, Written p line := by
  refine Sectioned.forall_mem_listing Written.nil
    (fun group hgroup => (verbatim_titles group hgroup).1.written h.admits) ?_
  intro key line hline
  rw [List.mem_singleton.mp hline]
  have hstatement := quiet_statement h key
  have hopening : Quiet " //".toList := by decide
  obtain ⟨hspaced, hfollows⟩ := written_spaced h.admits
    fun level (_ : level ∈ Level.all) => legible_describedAt h key level
  have hcomment : Written p (comment layout key) :=
    ((hopening.written h.admits).append hspaced (Or.inr hfollows)).of_isInfix
      (trimRight_isPrefix _).isInfix
  unfold Xkb.line
  split
  · exact (hstatement.written h.admits).append hcomment (Or.inl hstatement.leads)
  · exact (hstatement.written h.admits).append Written.nil (Or.inl hstatement.leads)

end Xkb

/-! ## KLC tables -/

namespace Klc

variable {layout : Layout} {dk : DeadKey} {c : Char}

theorem legible_shown (h : layout.Legible p) (hc : layout.deadKey? c = none → p c) :
    p (shown layout c) := by
  unfold shown
  cases hdk : layout.deadKey? c with
  | none => exact hc hdk
  | some dk => exact h.altSpace (Layout.mem_of_deadKey? hdk).1

theorem legible_shownAt (h : layout.Legible p) (key : Key) (level : Level) :
    p (shownAt layout key level) := by
  have hspace : Inline ' ' := by decide
  unfold shownAt
  cases hc : layout.symbol key level with
  | none => exact h.admits _ hspace
  | some c => exact legible_shown h (h.stored key level c hc)

theorem quiet_deadKeyCode (dk : DeadKey) : Quiet (deadKeyCode dk) :=
  quiet_hex dk.altSpace

theorem written_symbolAt (h : layout.Legible p) (key : Key) (level : Level) :
    Written p (symbolAt layout key level) := by
  have hnothing : Quiet nothing := by decide
  have hat : Quiet ['@'] := by decide
  unfold symbolAt
  cases hc : layout.symbol key level with
  | none => exact hnothing.written h.admits
  | some c =>
      rw [Option.map_some, Option.getD_some]
      unfold symbol
      cases hdk : layout.deadKey? c with
      | some dk => exact ((quiet_deadKeyCode dk).append hat).written h.admits
      | none =>
          simp only
          split
          · exact written_singleton.mpr (h.stored key level c hc hdk)
          · exact (quiet_hex c).written h.admits

theorem quiet_codes : ∀ key ∈ Key.all, Quiet (Registry.builtin.keyCodes key).klcScan
    ∧ Quiet (Registry.builtin.keyCodes key).klcVirtual := by
  decide

theorem written_comment (h : layout.Legible p) (key : Key) : Written p (comment layout key) := by
  have hopening : Quiet "//".toList := by decide
  obtain ⟨hspaced, hfollows⟩ := written_spaced h.admits
    fun level (_ : level ∈ levels) => legible_shownAt h key level
  refine ((hopening.written h.admits).append hspaced (Or.inr hfollows)).of_isInfix ?_
  exact (trimRight_isPrefix _).isInfix.trans (List.dropWhile_suffix _).isInfix

theorem written_row (h : layout.Legible p) (key : Key) : Written p (row layout key).text := by
  obtain ⟨hscan, hvirtual⟩ := quiet_codes key (Key.mem_all key)
  have hdigits : Quiet ['1'] ∧ Quiet ['0'] ∧ Quiet nothing := by decide
  refine written_join h.admits (by decide) (by decide) (List.cons_ne_nil _ _) ?_
  simp only [TableRow.fields, row, List.forall_mem_cons, h.registry_eq]
  refine ⟨hscan.written h.admits, hvirtual.written h.admits, ?_, written_symbolAt h ..,
    written_symbolAt h .., hdigits.2.2.written h.admits, written_symbolAt h ..,
    written_symbolAt h .., written_comment h key, ?_⟩
  · split
    · exact hdigits.1.written h.admits
    · exact hdigits.2.1.written h.admits
  · exact fun _ hmem => absurd hmem List.not_mem_nil

/-- Every line of a Windows layout table is written in what the layout shows. -/
theorem written_lines (h : layout.Legible p) : ∀ line ∈ lines layout, Written p line := by
  refine Sectioned.forall_mem_listing Written.nil
    (fun group hgroup => (verbatim_titles group hgroup).1.written h.admits) ?_
  intro key line hline
  rw [List.mem_singleton.mp hline]
  exact written_row h key

theorem written_pairLine (h : layout.Legible p) {base alt : Char}
    (hbase : layout.deadKey? base = none → p base) (halt : layout.deadKey? alt = none → p alt) :
    Written p (pairLine layout base alt) := by
  have hfixed : Quiet ['\t'] ∧ Quiet ['@'] ∧ Quiet "\t// ".toList ∧ Quiet " -> ".toList := by
    decide
  obtain ⟨htab, hat, hslashes, harrow⟩ := hfixed
  have hsign : Quiet (if layout.isDeadKey alt then ['@'] else []) := by
    split
    · exact hat
    · exact fun _ hmem => absurd hmem List.not_mem_nil
  have hcodes := (((quiet_hex (shown layout base)).append htab).append
    (quiet_hex (shown layout alt))).append (hsign)
  have hshown := (written_singleton.mpr (legible_shown h hbase)).between h.admits
    (hcodes.append hslashes) ⟨harrow, by decide⟩
  exact hshown.append (written_singleton.mpr (legible_shown h halt))
    (Or.inl (Leads.append (by decide) (by decide)))

theorem written_pairLines (h : layout.Legible p) (hdk : dk ∈ layout.deadKeys) :
    ∀ line ∈ pairLines layout dk, Written p line := by
  intro line hline
  unfold pairLines at hline
  split at hline
  · refine Sectioned.forall_mem_blocks Written.nil ?_ line hline
    intro part hpart line hline
    obtain ⟨levels, -, hin⟩ := List.mem_flatMap.mp hpart
    obtain ⟨group, hgroup, rfl⟩ := List.mem_map.mp hin
    rcases List.mem_cons.mp hline with rfl | hline
    · exact (verbatim_titles group hgroup).1.written h.admits
    · obtain ⟨key, -, hin⟩ := List.mem_flatMap.mp hline
      obtain ⟨pair, hpair, rfl⟩ := Option.map_eq_some_iff.mp (Option.mem_toList.mp hin)
      obtain ⟨hbase, halt⟩ := Layout.symbolPair?_eq_some_iff.mp hpair
      exact written_pairLine h (h.stored key _ pair.1 hbase) (h.stored key _ pair.2 halt)
  · obtain ⟨pair, hpair, rfl⟩ := List.mem_map.mp hline
    obtain ⟨hbase, halt⟩ := h.paired dk hdk pair hpair
    exact written_pairLine h hbase halt

theorem quiet_upperName (h : layout.Legible p) (hdk : dk ∈ layout.deadKeys) :
    Quiet (Text.upper dk.name) := by
  have hnames : ∀ dk ∈ Registry.builtin.deadKeys, dk.name.all nameChars.contains = true := by
    rw [Registry.builtin_deadKeys]
    decide
  obtain ⟨known, hknown, hname, -⟩ := h.known dk hdk
  exact hname ▸ quiet_upper (hnames known hknown)

theorem written_heading (h : layout.Legible p) (hdk : dk ∈ layout.deadKeys) :
    Written p ("// DEADKEY: ".toList ++ Text.upper dk.name ++ " //\x7b\x7b\x7b".toList) := by
  have hfixed : Verbatim "// DEADKEY: ".toList ∧ Verbatim " //\x7b\x7b\x7b".toList := by decide
  have hname := (quiet_upperName h hdk).written h.admits
  exact ((hfixed.1.written h.admits).append hname (Or.inl (by decide))).append
    (hfixed.2.written h.admits) (Or.inr (by decide))

/-- Every line of the dead-key blocks is written in what the layout shows. -/
theorem written_deadKeyLines (h : layout.Legible p) :
    ∀ line ∈ deadKeyLines layout, Written p line := by
  refine Sectioned.forall_mem_blocks Written.nil fun block hblock line hline => ?_
  obtain ⟨dk, hdk, rfl⟩ := List.mem_map.mp hblock
  have hfixed : Quiet "DEADKEY\t".toList ∧ Inline '\u00a0' ∧ Inline ' '
      ∧ Verbatim "//\x7d\x7d\x7d".toList := by decide
  have hspace := fun (_ : layout.deadKey? dk.altSpace = none) => h.altSpace hdk
  simp only [deadKeyBlock, List.mem_append, List.mem_cons, List.not_mem_nil, or_false] at hline
  rcases hline with ((rfl | rfl | rfl) | hpair) | rfl | rfl | rfl | rfl
  · exact written_heading h hdk
  · exact (hfixed.1.append (quiet_deadKeyCode dk)).written h.admits
  · exact Written.nil
  · exact written_pairLines h hdk line hpair
  · exact Written.nil
  · exact written_pairLine h (fun _ => h.admits _ hfixed.2.1) hspace
  · exact written_pairLine h (fun _ => h.admits _ hfixed.2.2.1) hspace
  · exact hfixed.2.2.2.written h.admits

/-- Every line of the index of dead keys is written in what the layout shows. -/
theorem written_nameLines (h : layout.Legible p) : ∀ line ∈ nameLines layout, Written p line := by
  intro line hline
  obtain ⟨dk, hdk, rfl⟩ := List.mem_map.mp hline
  have hfixed : Quiet "\t\"".toList ∧ Quiet ['"'] := by decide
  have hname := ((quiet_deadKeyCode dk).append hfixed.1).append (quiet_upperName h hdk)
  exact (hname.append hfixed.2).written h.admits

end Klc

end KeyboardLayout
