import KeyboardLayout.Proofs.Frames
import KeyboardLayout.Proofs.KeylayoutLines
import KeyboardLayout.Proofs.PreviewLines
import KeyboardLayout.Proofs.SimultaneousTokens

/-!
# What a driver file holds

Every line of a frame is read as it should be (`ready_frame`), so that a driver file is composed of
its frame and its padded views (`render_eq`). The views of the header are drawings, which need the
padding. Among the others only the keymap for Caps Lock can hold marks, and that decides whether a
driver file holds its views as they are (`render_eq_iff`).
-/

namespace KeyboardLayout

open Text Placeholder

/-- All texts of the metadata. -/
def Metadata.values (metadata : Metadata) : List Text :=
  [metadata.name, metadata.description, metadata.locale, metadata.variant, metadata.author,
    metadata.version]

namespace Driver

def frameLines : Driver → List Text
  | xkb => Frame.xkbLines.map String.toList
  | klc => Frame.klcLines.map String.toList
  | keylayout => Frame.keylayoutLines.map String.toList

theorem frame_eq (driver : Driver) : driver.frame = unlines driver.frameLines := by
  cases driver <;> rfl

/-- The names of the drawings in the header. -/
def headerNames : List Text :=
  ["GEOMETRY_qwerty".toList, "GEOMETRY_altgr".toList]

/-- The names of the views that a driver file shows. -/
def viewNames (driver : Driver) : List Text :=
  headerNames ++
    match driver with
    | xkb => ["LAYOUT".toList]
    | klc => ["LAYOUT".toList, "DEAD_KEYS".toList, "DEAD_KEY_INDEX".toList]
    | keylayout => ["LAYOUT_0".toList, "LAYOUT_1".toList, "LAYOUT_2".toList, "LAYOUT_3".toList,
        "LAYOUT_4".toList, "ACTIONS".toList, "TERMINATORS".toList]

def tokenNames : List Text :=
  ["encoding".toList, "name".toList, "description".toList, "locale".toList, "variant".toList,
    "author".toList, "version".toList]

/-- The tokens that stand in the frame. -/
def shownTokens : Driver → List Text
  | xkb => ["description".toList, "locale".toList, "version".toList, "author".toList,
      "variant".toList]
  | klc => ["description".toList, "locale".toList, "version".toList, "author".toList,
      "encoding".toList, "name".toList]
  | keylayout => ["description".toList, "locale".toList, "version".toList, "author".toList,
      "name".toList]

/-- Every line can be framed and is sealed, and every name has its marker at the end of one. -/
def Ready (names shown lines : List Text) : Prop :=
  (∀ line ∈ lines, Checked names line ∧ ('$' ∉ line ∨ Sealed tokenNames shown (partsOf line)))
    ∧ ∀ name ∈ names, ∃ line ∈ lines, (line.dropSuffix? (marker name)).isSome

instance (names shown lines : List Text) : Decidable (Ready names shown lines) :=
  inferInstanceAs (Decidable (_ ∧ _))

theorem ready_of_spelled {names shown spelled lines : List Text} (h : lines = spelled)
    (hspelled : Ready names shown spelled) : Ready names shown lines :=
  h ▸ hspelled

set_option maxRecDepth 1500 in
theorem ready_xkb :
    Ready (viewNames .xkb) (shownTokens .xkb) (frameLines .xkb) := by
  apply ready_of_spelled
  · unfold frameLines Frame.xkbLines
    repeat (apply Registry.cons_toList_eq rfl)
    rfl
  · decide +kernel

set_option maxRecDepth 1500 in
theorem ready_klc :
    Ready (viewNames .klc) (shownTokens .klc) (frameLines .klc) := by
  apply ready_of_spelled
  · unfold frameLines Frame.klcLines
    repeat (apply Registry.cons_toList_eq rfl)
    rfl
  · decide +kernel

set_option maxRecDepth 1500 in
theorem ready_keylayout :
    Ready (viewNames .keylayout) (shownTokens .keylayout) (frameLines .keylayout) := by
  apply ready_of_spelled
  · unfold frameLines Frame.keylayoutLines
    repeat (apply Registry.cons_toList_eq rfl)
    rfl
  · decide +kernel

theorem ready_frame (driver : Driver) :
    Ready driver.viewNames driver.shownTokens driver.frameLines := by
  cases driver with
  | xkb => exact ready_xkb
  | klc => exact ready_klc
  | keylayout => exact ready_keylayout

/-! ## Views -/

/-- The keymaps of a keylayout, numbered as the frame numbers them. -/
def keymapViews (layout : Layout) : List (Text × List Text) :=
  [("LAYOUT_0".toList, Keylayout.keymapOf layout (.plain .base)),
    ("LAYOUT_1".toList, Keylayout.keymapOf layout (.plain .shift)),
    ("LAYOUT_2".toList, Keylayout.keymapOf layout .caps),
    ("LAYOUT_3".toList, Keylayout.keymapOf layout (.plain .altGr)),
    ("LAYOUT_4".toList, Keylayout.keymapOf layout (.plain .altGrShift))]

/-- The views of the body, with the names of their markers. -/
def views (driver : Driver) (layout : Layout) (options : Options) : List (Text × List Text) :=
  match driver with
  | xkb => [("LAYOUT".toList, Xkb.lines layout options.showDescription)]
  | klc => [
      ("LAYOUT".toList, Klc.lines layout),
      ("DEAD_KEYS".toList, Klc.deadKeyLines layout),
      ("DEAD_KEY_INDEX".toList, Klc.nameLines layout)]
  | keylayout => keymapViews layout ++ [
      ("ACTIONS".toList, Keylayout.actionLines layout),
      ("TERMINATORS".toList, Keylayout.terminatorLines layout)]

variable {drawn layout : Layout} {options : Options} {p : Char → Prop}

/-- All keymaps that a keylayout asks for are there. -/
theorem body_eq (driver : Driver) (layout : Layout) (options : Options) :
    driver.body layout options = .ok (driver.views layout options) := by
  cases driver <;> rfl

theorem render_of_previews {previews : List (Text × List Text)}
    (h : Driver.previews layout options = .ok previews) (driver : Driver) :
    driver.render layout options = .ok
      (insertTokens (driver.ownTokens ++ metadataTokens layout.metadata)
        (insertViews (previews ++ driver.views layout options) driver.frame)) := by
  rw [render, h]
  simp only [bind, Except.bind, body_eq]
  rfl

/-- The view that types the uppercase of characters. -/
def capsView (layout : Layout) : Text × List Text :=
  ("LAYOUT_2".toList, Keylayout.keymapOf layout .caps)

/-- Every line of a view is written in what the layout shows, but for the keymap for Caps Lock. -/
theorem written_views_cases (h : layout.Legible p) (driver : Driver) (options : Options)
    {view : Text × List Text} (hview : view ∈ driver.views layout options) :
    (∀ line ∈ view.2, Written p line) ∨ driver = .keylayout ∧ view = capsView layout := by
  cases driver with
  | xkb =>
      rw [List.mem_singleton.mp hview]
      exact Or.inl (Xkb.written_lines h options.showDescription)
  | klc =>
      simp only [views, List.mem_cons, List.not_mem_nil, or_false] at hview
      rcases hview with rfl | rfl | rfl
      · exact Or.inl (Klc.written_lines h)
      · exact Or.inl (Klc.written_deadKeyLines h)
      · exact Or.inl (Klc.written_nameLines h)
  | keylayout =>
      simp only [views, keymapViews, List.cons_append, List.nil_append, List.mem_cons,
        List.not_mem_nil, or_false] at hview
      rcases hview with rfl | rfl | rfl | rfl | rfl | rfl | rfl
      · exact Or.inl (Keylayout.written_keymapOf_plain h .base)
      · exact Or.inl (Keylayout.written_keymapOf_plain h .shift)
      · exact Or.inr ⟨rfl, rfl⟩
      · exact Or.inl (Keylayout.written_keymapOf_plain h .altGr)
      · exact Or.inl (Keylayout.written_keymapOf_plain h .altGrShift)
      · exact Or.inl (Keylayout.written_actionLines h)
      · exact Or.inl (Keylayout.written_terminatorLines h)

theorem loose_views (h : layout.Legible p) (driver : Driver) (options : Options) :
    ∀ view ∈ driver.views layout options, ∀ line ∈ view.2, Loose line := by
  intro view hview
  rcases written_views_cases h driver options hview with hwritten | ⟨-, rfl⟩
  · exact fun line hline => (hwritten line hline).loose
  · exact Keylayout.loose_keymapOf h .caps

/-- Every line of a view of a layout from a text is verbatim, but for the keymap for Caps Lock. -/
theorem views_cases (h : drawn.Drawn Registry.builtin) (driver : Driver) (options : Options)
    {view : Text × List Text} (hview : view ∈ driver.views drawn.complete options) :
    (∀ line ∈ view.2, Verbatim line) ∨ driver = .keylayout ∧ view = capsView drawn.complete :=
  (written_views_cases h.legible_complete driver options hview).imp_left fun hwritten line hline =>
    verbatim_iff.mpr (hwritten line hline)

/-- The keymap for Caps Lock is verbatim unless the uppercase of some base symbol holds a mark. -/
theorem verbatim_capsView_iff (h : layout.Legible Inline) :
    (∀ line ∈ (capsView layout).2, Verbatim line) ↔
      ∀ key c, layout.symbol key .base = some c → layout.isDeadKey c = false →
        ∀ d ∈ upperChar c, isMark d = false :=
  Keylayout.verbatim_keymapOf_iff h .caps

/-! ## Tokens -/

theorem tokenNames_proper : ∀ name ∈ tokenNames, ∀ c ∈ name, c ∉ ['$', '=', '\x7d'] := by
  have hall : tokenNames.all fun name => name.all fun c => decide (c ∉ ['$', '=', '\x7d']) := by
    decide
  intro name hname c hc
  exact of_decide_eq_true (List.all_eq_true.mp (List.all_eq_true.mp hall name hname) c hc)

/-- The metadata has the same tokens whatever its texts are. -/
theorem map_fst_tokens (driver : Driver) (metadata : Metadata) :
    (driver.ownTokens ++ metadataTokens metadata).map Prod.fst =
      driver.ownTokens.map Prod.fst ++ (metadataTokens {}).map Prod.fst := by
  rw [List.map_append]
  rfl

theorem mem_tokenNames (driver : Driver) (metadata : Metadata) :
    ∀ name ∈ (driver.ownTokens ++ metadataTokens metadata).map Prod.fst, name ∈ tokenNames := by
  rw [map_fst_tokens]
  cases driver <;> decide

/-- What holds of all texts of the metadata and of the encoding holds of the values of all tokens. -/
theorem forall_mem_tokens {p : Text → Prop} (hencoding : p "UTF-16LE".toList) {metadata : Metadata}
    (h : ∀ value ∈ metadata.values, p value) (driver : Driver) :
    ∀ token ∈ driver.ownTokens ++ metadataTokens metadata, p token.2 := by
  simp only [Metadata.values, List.forall_mem_cons] at h
  obtain ⟨hname, hdescription, hlocale, hvariant, hauthor, hversion, -⟩ := h
  have hown : ∀ token ∈ driver.ownTokens, p token.2 := by
    cases driver with
    | klc => simpa [ownTokens] using hencoding
    | _ => exact fun _ hnil => absurd hnil List.not_mem_nil
  have hchosen : p (if metadata.variant.isEmpty then metadata.name else metadata.variant) := by
    split
    · exact hname
    · exact hvariant
  have hmetadata : ∀ token ∈ metadataTokens metadata, p token.2 := by
    simp only [metadataTokens, List.forall_mem_cons]
    exact ⟨hname, hdescription, hlocale, hchosen, hauthor, hversion,
      fun _ hnil => absurd hnil List.not_mem_nil⟩
  exact fun token htoken => (List.mem_append.mp htoken).elim (hown token) (hmetadata token)

/-- The values of the metadata and of the driver itself hold no token. -/
theorem assignable_tokens (driver : Driver) {metadata : Metadata}
    (h : ∀ value ∈ metadata.values, ¬"$\x7b".toList <:+: value) :
    Assignable (driver.ownTokens ++ metadataTokens metadata) := by
  have hplain := forall_mem_tokens (p := Plain) (plain_of_not_mem (by decide))
    (fun value hvalue => plain_iff.mpr (h value hvalue)) driver
  intro token htoken
  have hname := mem_tokenNames driver metadata token.1 (List.mem_map_of_mem htoken)
  exact ⟨tokenNames_proper token.1 hname, hplain token htoken⟩

/-! ## Driver files -/

theorem map_fst_views {previews : List (Text × List Text)} (driver : Driver)
    (hpreviews : previews.map Prod.fst = headerNames) :
    (previews ++ driver.views layout options).map Prod.fst = driver.viewNames := by
  rw [List.map_append, hpreviews]
  cases driver <;> rfl

theorem feed_not_mem_marker (driver : Driver) : ∀ name ∈ driver.viewNames, '\n' ∉ marker name := by
  cases driver <;> decide

theorem frameLines_ne_nil (driver : Driver) : driver.frameLines ≠ [] := by
  cases driver <;> exact List.cons_ne_nil _ _

/-- The header of a driver file can always be drawn. -/
theorem exists_previews (h : layout.registry = Registry.builtin) {board : Geometry}
    (hboard : Registry.builtin.geometry options.previewGeometry = .ok board) :
    ∃ previews, Driver.previews layout options = .ok previews
      ∧ previews.map Prod.fst = headerNames
      ∧ ∀ view ∈ previews, ∀ line ∈ view.2, Loose line := by
  obtain ⟨base, hbase, hloose⟩ := Layout.loose_drawing h hboard [.base, .deadKey]
  obtain ⟨altGr, haltGr, hloose'⟩ := Layout.loose_drawing h hboard [.altGr]
  refine ⟨[("GEOMETRY_qwerty".toList, base), ("GEOMETRY_altgr".toList, altGr)], ?_, rfl, ?_⟩
  · rw [Driver.previews, hbase, haltGr]
    rfl
  · simpa using ⟨hloose, hloose'⟩

/-- What a driver file is composed of fits into its frame: every line can be framed, and every view
is loose. -/
theorem fits_frame (h : layout.Legible p) (driver : Driver) (options : Options)
    {previews : List (Text × List Text)} (hnames : previews.map Prod.fst = headerNames)
    (hloose : ∀ view ∈ previews, ∀ line ∈ view.2, Loose line) :
    (∀ line ∈ driver.frameLines,
        Framed ((previews ++ driver.views layout options).map Prod.fst) line)
      ∧ (∀ view ∈ previews ++ driver.views layout options, '\n' ∉ marker view.1)
      ∧ ∀ view ∈ previews ++ driver.views layout options, ∀ line ∈ view.2, Loose line := by
  have hfst : (previews ++ driver.views layout options).map Prod.fst = driver.viewNames :=
    map_fst_views driver hnames
  refine ⟨?_, ?_, ?_⟩
  · exact fun line hline => hfst ▸ ((ready_frame driver).1 line hline).1.framed
  · exact fun view hview => feed_not_mem_marker driver view.1 (hfst ▸ List.mem_map_of_mem hview)
  · exact fun view hview => (List.mem_append.mp hview).elim (hloose view)
      (loose_views h driver options view)

/-- A driver file is its frame with the padded views in the places of their markers. -/
theorem render_eq (h : drawn.Drawn Registry.builtin) {board : Geometry}
    (hmetadata : ∀ value ∈ drawn.metadata.values, ¬"$\x7b".toList <:+: value)
    (hboard : Registry.builtin.geometry options.previewGeometry = .ok board) (driver : Driver) :
    ∃ previews, Driver.previews drawn.complete options = .ok previews
      ∧ previews.map Prod.fst = headerNames
      ∧ driver.render drawn.complete options = .ok (composed driver.frameLines
        ((previews ++ driver.views drawn.complete options).map padded)
        (driver.ownTokens ++ metadataTokens drawn.metadata)) := by
  have hlegible := h.legible_complete
  obtain ⟨previews, hpreviews, hnames, hloose⟩ := exists_previews hlegible.registry_eq hboard
  obtain ⟨hframed, hfeed, hviews⟩ := fits_frame hlegible driver options hnames hloose
  refine ⟨previews, hpreviews, hnames, ?_⟩
  rw [render_of_previews hpreviews, frame_eq, Layout.metadata_complete]
  exact congrArg Except.ok (insertTokens_insertViews (frameLines_ne_nil driver) hframed hfeed
    hviews (assignable_tokens driver hmetadata))

/-- The line of the frame that the keymap for Caps Lock takes the place of. -/
def capsLine : Text :=
  "      KALAMINE::LAYOUT_2".toList

theorem dropSuffix?_capsLine :
    (∀ name ∈ headerNames ++ ["LAYOUT_0".toList, "LAYOUT_1".toList],
        capsLine.dropSuffix? (marker name) = none)
      ∧ capsLine.dropSuffix? (marker "LAYOUT_2".toList) = some "      ".toList := by
  decide

/-- Padding the keymap for Caps Lock shows in the file. -/
theorem composed_ne_of_mark {previews : List (Text × List Text)}
    (hpreviews : previews.map Prod.fst = headerNames) {line : Text}
    (hline : line ∈ (capsView layout).2) {c : Char} (hc : c ∈ line) (hmark : isMark c = true)
    (tokens : List (Text × Text)) :
    composed (frameLines .keylayout) (previews ++ views .keylayout layout options) tokens ≠
      composed (frameLines .keylayout) (previews ++ (views .keylayout layout options).map padded)
        tokens := by
  have hplace : capsLine ∈ frameLines .keylayout :=
    List.mem_map_of_mem (by simp [Frame.keylayoutLines])
  obtain ⟨hnone, hcaps⟩ := dropSuffix?_capsLine
  have hfirst : placed? previews capsLine = none :=
    placed?_eq_none fun name hname => hnone name (List.mem_append_left _ (hpreviews ▸ hname))
  have hbase := hnone "LAYOUT_0".toList (by simp)
  have hshift := hnone "LAYOUT_1".toList (by simp)
  intro heq
  refine Nat.ne_of_lt (length_composed_lt hplace hfirst ?_) (congrArg List.length heq)
  simp only [placed?, views, keymapViews, padded, List.cons_append, List.map_cons,
    List.findSome?_cons, hbase, hshift, hcaps, Option.map_none, Option.map_some, Option.getD_some]
  exact size_shownLines_lt _ hline hc hmark

/-- Padding the views changes the file exactly if some uppercase of a base symbol has a mark. -/
theorem composed_padded_eq_iff (h : drawn.Drawn Registry.builtin) (driver : Driver)
    {previews : List (Text × List Text)}
    (hpreviews : previews.map Prod.fst = headerNames)
    (tokens : List (Text × Text)) :
    composed driver.frameLines (previews ++ (driver.views drawn.complete options).map padded)
        tokens =
      composed driver.frameLines (previews ++ driver.views drawn.complete options) tokens ↔
    (driver = .keylayout → ∀ key c, drawn.complete.symbol key .base = some c →
      drawn.complete.isDeadKey c = false → ∀ d ∈ upperChar c, isMark d = false) := by
  rw [← verbatim_capsView_iff h.legible_complete]
  constructor
  · rintro heq rfl line hline
    refine ⟨Keylayout.inert_keymapOf h.legible_complete .caps line hline,
      fun c hc => Bool.eq_false_iff.mpr fun hmark => ?_⟩
    exact composed_ne_of_mark hpreviews hline hc hmark tokens heq.symm
  · intro hcaps
    rw [map_padded_eq_self]
    intro view hview
    rcases views_cases h driver options hview with hverbatim | ⟨hdriver, rfl⟩
    · exact hverbatim
    · exact hcaps hdriver

/-- The file of a driver holds the lines of the views as they are, each led by what precedes its
marker, unless it is a keylayout and the uppercase of some base symbol holds a combining mark. In
any case the padded keymap for Caps Lock is all that differs. -/
theorem render_eq_iff {t : Text} (h : Layout.ofText Registry.builtin t = .ok layout)
    {board : Geometry} (hmetadata : ∀ value ∈ layout.metadata.values, ¬"$\x7b".toList <:+: value)
    (hboard : Registry.builtin.geometry options.previewGeometry = .ok board) (driver : Driver) :
    ∃ previews text, Driver.previews layout options = .ok previews
      ∧ driver.render layout options = .ok text
      ∧ text = composed driver.frameLines
        (previews.map padded ++ (driver.views layout options).map padded)
        (driver.ownTokens ++ metadataTokens layout.metadata)
      ∧ (∀ view ∈ driver.views layout options, view ≠ capsView layout → padded view = view)
      ∧ (text = composed driver.frameLines (previews.map padded ++ driver.views layout options)
          (driver.ownTokens ++ metadataTokens layout.metadata) ↔
        (driver = .keylayout → ∀ key c, layout.symbol key .base = some c →
          layout.isDeadKey c = false → ∀ d ∈ upperChar c, isMark d = false)) := by
  obtain ⟨drawn, hdrawn, rfl⟩ := Layout.drawn_of_ofText h
  obtain ⟨previews, hpreviews, hnames, hrender⟩ := render_eq hdrawn hmetadata hboard driver
  rw [List.map_append] at hrender
  refine ⟨previews, _, hpreviews, hrender, rfl, fun view hview hcaps => ?_, ?_⟩
  · rcases views_cases hdrawn driver options hview with hverbatim | ⟨-, heq⟩
    · exact padded_eq_self hverbatim
    · exact absurd heq hcaps
  · exact composed_padded_eq_iff hdrawn driver (map_fst_map_padded hnames) _

/-- A keylayout of a layout with an ordinary letter. -/
theorem render_eq_letter :
    ∃ layout previews text,
      Layout.ofText Registry.builtin (Layout.sketch [(5, 8, 'a')] []) = .ok layout
      ∧ Driver.previews layout {} = .ok previews
      ∧ render .keylayout layout {} = .ok text
      ∧ text = composed (frameLines .keylayout) (previews.map padded ++ views .keylayout layout {})
        (ownTokens .keylayout ++ metadataTokens layout.metadata) := by
  obtain ⟨layout, h, hchecked⟩ := Layout.exists_of_any_toOption Registry.builtin
    (Layout.sketch [(5, 8, 'a')] [])
    (fun layout => layout.metadata == {} && Key.all.all fun key =>
      (layout.symbol key .base).all fun c => (upperChar c).all fun d => !isMark d)
    (by decide +kernel)
  simp only [Bool.and_eq_true, beq_iff_eq, List.all_eq_true, Option.all_eq_true,
    Bool.not_eq_true'] at hchecked
  obtain ⟨hmetadata, hmarkless⟩ := hchecked
  have hplain : ∀ value ∈ layout.metadata.values, ¬"$\x7b".toList <:+: value := by
    rw [hmetadata]
    decide
  have hboard : Registry.builtin.geometry ({} : Options).previewGeometry =
      .ok Registry.Builtin.iso := rfl
  obtain ⟨previews, text, hpreviews, hrender, -, -, hiff⟩ :=
    render_eq_iff h hplain hboard .keylayout
  refine ⟨layout, previews, text, h, hpreviews, hrender, hiff.mpr fun _ key c hc _ => ?_⟩
  exact hmarkless key (Key.mem_all key) c hc

/-- The uppercase of a letter with a caron is spelled with a mark, which the keylayout pads. -/
theorem render_ne_caron :
    ∃ layout previews text,
      Layout.ofText Registry.builtin (Layout.sketch [(5, 8, 'ǰ')] []) = .ok layout
      ∧ layout.metadata = {}
      ∧ Driver.previews layout {} = .ok previews
      ∧ render .keylayout layout {} = .ok text
      ∧ text ≠ composed (frameLines .keylayout) (previews.map padded ++ views .keylayout layout {})
        (ownTokens .keylayout ++ metadataTokens layout.metadata) := by
  obtain ⟨layout, h, hchecked⟩ := Layout.exists_of_any_toOption Registry.builtin
    (Layout.sketch [(5, 8, 'ǰ')] [])
    (fun layout => layout.metadata == {} && layout.symbol .ad01 .base == some 'ǰ'
      && !layout.isDeadKey 'ǰ')
    (by decide +kernel)
  simp only [Bool.and_eq_true, beq_iff_eq, Bool.not_eq_true'] at hchecked
  obtain ⟨⟨hmetadata, hsymbol⟩, hdead⟩ := hchecked
  obtain ⟨drawn, hdrawn, rfl⟩ := Layout.drawn_of_ofText h
  have hplain : ∀ value ∈ drawn.metadata.values, ¬"$\x7b".toList <:+: value := by
    rw [← Layout.metadata_complete, hmetadata]
    decide
  have hboard : Registry.builtin.geometry ({} : Options).previewGeometry =
      .ok Registry.Builtin.iso := rfl
  obtain ⟨previews, hpreviews, hnames, hrender⟩ := render_eq hdrawn hplain hboard .keylayout
  refine ⟨_, previews, _, h, hmetadata, hpreviews, hrender, fun heq => ?_⟩
  rw [List.map_append, Layout.metadata_complete] at heq
  have hmarkless := (composed_padded_eq_iff hdrawn .keylayout (map_fst_map_padded hnames) _).mp heq
    rfl .ad01 'ǰ' hsymbol hdead '\u030c' (by decide)
  exact absurd hmarkless (by decide)

end Driver

end KeyboardLayout
