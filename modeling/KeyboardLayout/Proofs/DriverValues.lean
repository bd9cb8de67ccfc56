import KeyboardLayout.Proofs.DriverFiles

/-!
# What the metadata becomes in a driver file

No value of the metadata is looked at as long as none that the frame shows holds the opening of a
token that is replaced after it. Then a driver file is its frame with the views and all values put
in at once (`render_at_once`), whatever else the values hold and whatever the layout types.
Otherwise the order of the tokens shows: a name that holds the token of the version loses it to the
version (`render_ne_at_once`), because no token is left behind when it has been replaced
(`not_infix_substituteToken`).
-/

namespace KeyboardLayout

open Text Placeholder

/-! ## Layouts over the builtin registry -/

namespace Layout

variable {layout : Layout}

/-- The dead keys are built-in ones but for their tables. -/
structure Equipped (layout : Layout) : Prop where
  registry_eq : layout.registry = Registry.builtin
  known : ∀ dk ∈ layout.deadKeys,
    ∃ known ∈ Registry.builtin.deadKeys, dk = { known with base := dk.base, alt := dk.alt }

theorem Noted.equipped (h : layout.Noted) (hregistry : layout.registry = Registry.builtin) :
    layout.Equipped :=
  ⟨hregistry, fun dk hdk => ⟨dk, List.mem_of_find?_eq_some (hregistry ▸ h.known dk hdk), rfl⟩⟩

/-- Whatever drawings build is equipped, also where they break off. -/
theorem Reached.equipped {faultless : Bool} (h : Reached Registry.builtin faultless layout) :
    layout.Equipped :=
  (orderly_of_reached h).equipped (registry_of_reached h)

theorem Equipped.complete (h : layout.Equipped) : layout.complete.Equipped := by
  refine ⟨h.registry_eq, fun dk hdk => ?_⟩
  obtain ⟨old, hold, rfl⟩ := List.mem_map.mp hdk
  obtain ⟨known, hknown, heq⟩ := h.known old hold
  refine ⟨known, hknown, ?_⟩
  unfold completeDeadKey
  split <;> rw [heq] <;> rfl

theorem equipped_of_ofText {t : Text} (h : ofText Registry.builtin t = .ok layout) :
    layout.Equipped := by
  obtain ⟨drawn, hdrawn, rfl⟩ := drawn_of_ofText h
  exact (hdrawn.orderly.equipped hdrawn.registry_eq).complete

theorem Equipped.legible (h : layout.Equipped) : layout.Legible Always where
  admits := admits_always
  registry_eq := h.registry_eq
  known := by
    intro dk hdk
    obtain ⟨known, hknown, heq⟩ := h.known dk hdk
    refine ⟨known, hknown, ?_⟩
    rw [heq]
    exact ⟨rfl, rfl, rfl, rfl⟩
  stored := fun _ _ _ _ _ => trivial
  paired := fun _ _ _ _ => ⟨fun _ => trivial, fun _ => trivial⟩

end Layout

/-! ## Frames and values at once -/

namespace Text.Placeholder

variable {name value s t : Text} {names shown lines : List Text} {views : List (Text × List Text)}
  {tokens : List (Text × Text)}

/-- The lines with each line that ends with the marker of a view given way to the lines of the view,
and with the tokens of all others replaced in one pass. -/
def composedAtOnce (lines : List Text) (views : List (Text × List Text))
    (tokens : List (Text × Text)) : Text :=
  unlines (lines.flatMap fun line => (placed? views line).getD [substituteTokens tokens line])

theorem settled_of_placed? {line : Text}
    (hline : Framed (views.map Prod.fst) line) (hsettled : Settled names shown line)
    (hviews : ∀ view ∈ views, ∀ line ∈ view.2, Loose line) :
    ∀ piece ∈ (placed? (views.map padded) line).getD [line], Settled names shown piece := by
  intro piece hpiece
  cases h : placed? (views.map padded) line with
  | none =>
      rw [h, Option.getD_none, List.mem_singleton] at hpiece
      exact hpiece ▸ hsettled
  | some pieces =>
      rw [h] at hpiece
      exact (loose_of_placed? hline hviews h piece hpiece).plain.settled names shown

/-- The views and all values of a frame can be put in at once. -/
theorem insertTokens_insertViews_at_once (hne : lines ≠ [])
    (hlines : ∀ line ∈ lines, Framed (views.map Prod.fst) line
      ∧ Settled (tokens.map Prod.fst) shown line)
    (hnames : ∀ view ∈ views, '\n' ∉ marker view.1)
    (hviews : ∀ view ∈ views, ∀ line ∈ view.2, Loose line) (htokens : Named tokens)
    (hfeed : ∀ name ∈ tokens.map Prod.fst, ¬Continues name '\n')
    (hinserted : Inserted shown tokens) :
    Driver.insertTokens tokens (Driver.insertViews views (unlines lines)) =
        substituteTokens tokens (Driver.insertViews views (unlines lines))
      ∧ substituteTokens tokens (Driver.insertViews views (unlines lines)) =
        composedAtOnce lines (views.map padded) tokens := by
  have hpieces : ∀ piece ∈ lines.flatMap fun line =>
      (placed? (views.map padded) line).getD [line], Settled (tokens.map Prod.fst) shown piece := by
    intro piece hpiece
    obtain ⟨line, hline, hin⟩ := List.mem_flatMap.mp hpiece
    exact settled_of_placed? (hlines line hline).1 (hlines line hline).2 hviews piece hin
  rw [insertViews_of_framed hne (fun line hline => (hlines line hline).1) hnames hviews]
  refine ⟨?_, ?_⟩
  · exact insertTokens_eq_substituteTokens htokens hinserted (settled_unlines hfeed hpieces)
  · rw [substituteTokens_unlines htokens fun piece hpiece => (hpieces piece hpiece).tokened,
      composedAtOnce, List.map_flatMap]
    exact congrArg unlines (List.flatMap_congr fun line hline =>
      map_placed? (hlines line hline).1 hviews fun _ => substituteTokens_of_plain htokens)

/-! ## Tokens that have been replaced -/

theorem tokenAt?_opening (name rest : Text) :
    tokenAt? name (opening name '\x7d' ++ rest) = some (none, rest) := by
  have hafter : after? ("$\x7b".toList ++ name) (opening name '\x7d' ++ rest) =
      some ('\x7d' :: rest) := by
    refine after?_eq_some_iff.mpr ?_
    simp [opening]
  rw [tokenAt?, hafter]
  rfl

section

variable (hvalue : value ≠ [])
include hvalue

/-- What begins a text after a replacement began it before, if it has no character of the value. -/
theorem prefix_of_prefix_substituteToken (hs : ∀ c ∈ s, c ∉ value)
    (h : s <+: substituteToken name value t) : s <+: t := by
  induction s generalizing t with
  | nil => exact List.nil_prefix
  | cons a s ih =>
      obtain ⟨behind, hbehind⟩ := h
      cases t with
      | nil => simp [substituteToken] at hbehind
      | cons c t =>
          cases hread : tokenAt? name (c :: t) with
          | some found =>
              obtain ⟨first, more, hfirst⟩ := List.exists_cons_of_ne_nil hvalue
              have hchosen : chosen found.1 value = value := by
                rw [chosen, if_neg (by simpa using hvalue)]
              rw [substituteToken_of_some hread, hchosen, hfirst] at hbehind
              have ha : a = first := (List.cons.inj hbehind).1
              refine absurd ?_ (hs a (List.mem_cons_self ..))
              rw [ha, hfirst]
              exact List.mem_cons_self ..
          | none =>
              rw [substituteToken_cons_of_none hread] at hbehind
              obtain ⟨rfl, htail⟩ := List.cons.inj hbehind
              have hrest := ih (fun c hc => hs c (List.mem_cons_of_mem _ hc)) ⟨behind, htail⟩
              exact (List.prefix_cons_inj a).mpr hrest

/-- No token without a default is left once its value has been put for it. -/
theorem not_infix_substituteToken (h : ∀ c ∈ opening name '\x7d', c ∉ value) :
    ¬opening name '\x7d' <:+: substituteToken name value t := by
  have hdollar : '$' ∉ value := h '$' (List.mem_cons_self ..)
  have hbehind : ∀ {s t : Text}, '$' ∉ s → opening name '\x7d' <:+: s ++ t →
      opening name '\x7d' <:+: t := by
    intro s t hs hinfix
    induction s with
    | nil => exact hinfix
    | cons c s ih =>
        rw [List.mem_cons, not_or] at hs
        rcases List.infix_cons_iff.mp hinfix with ⟨more, hstart⟩ | hinfix
        · exact absurd (List.cons.inj hstart).1 hs.1
        · exact ih hs.2 hinfix
  -- the recursion of the replacement: behind a token, else behind a character
  induction hlength : t.length using Nat.strongRecOn generalizing t with
  | ind n ih =>
      subst hlength
      intro hinfix
      cases t with
      | nil => simp [substituteToken, opening] at hinfix
      | cons c t =>
          cases hread : tokenAt? name (c :: t) with
          | some found =>
              have hchosen : chosen found.1 value = value := by
                rw [chosen, if_neg (by simpa using hvalue)]
              rw [substituteToken_of_some hread, hchosen] at hinfix
              exact ih _ (length_tokenAt? hread) rfl (hbehind hdollar hinfix)
          | none =>
              rw [substituteToken_cons_of_none hread] at hinfix
              rcases List.infix_cons_iff.mp hinfix with hstart | hinfix
              · rw [← substituteToken_cons_of_none hread] at hstart
                obtain ⟨rest, hrest⟩ := prefix_of_prefix_substituteToken hvalue h hstart
                rw [← hrest, tokenAt?_opening] at hread
                cases hread
              · exact ih _ (Nat.lt_succ_self _) rfl hinfix

end

end Text.Placeholder

/-! ## Driver files -/

namespace Driver

variable {layout : Layout} {options : Options}

theorem named_tokens (driver : Driver) (metadata : Metadata) :
    Named (driver.ownTokens ++ metadataTokens metadata) := by
  intro token htoken
  exact tokenNames_proper token.1 (mem_tokenNames driver metadata _ (List.mem_map_of_mem htoken))

theorem feed_continues_no_token : ∀ name ∈ tokenNames, ¬Continues name '\n' := by
  decide

theorem settled_frame (driver : Driver) :
    ∀ line ∈ driver.frameLines, Settled tokenNames driver.shownTokens line := by
  intro line hline
  obtain ⟨hchecked, hdollar | hsealed⟩ := (ready_frame driver).1 line hline
  · exact (plain_of_not_mem hdollar).settled _ _
  · rcases hchecked with hquiet | ⟨-, ⟨hparts, htext⟩, -⟩
    · exact hquiet.verbatim.loose.plain.settled _ _
    · exact ⟨partsOf line, ⟨hparts, hsealed⟩, htext⟩

/-- A driver file is its frame with the views and the values put in at once, if no value that the
frame shows holds the opening of a token that is replaced after it. -/
theorem render_at_once (h : layout.Equipped) {board : Geometry}
    (hboard : Registry.builtin.geometry options.previewGeometry = .ok board) (driver : Driver)
    (hinserted : Inserted driver.shownTokens
      (driver.ownTokens ++ metadataTokens layout.metadata)) :
    ∃ previews text, Driver.previews layout options = .ok previews
      ∧ driver.render layout options = .ok text
      ∧ text = substituteTokens (driver.ownTokens ++ metadataTokens layout.metadata)
        (insertViews (previews ++ driver.views layout options) driver.frame)
      ∧ text = composedAtOnce driver.frameLines
        ((previews ++ driver.views layout options).map padded)
        (driver.ownTokens ++ metadataTokens layout.metadata) := by
  obtain ⟨previews, hpreviews, hnames, hloose⟩ := exists_previews h.registry_eq hboard
  obtain ⟨hframed, hfeed, hviews⟩ := fits_frame h.legible driver options hnames hloose
  have hsome := mem_tokenNames driver layout.metadata
  obtain ⟨hpass, hcomposed⟩ := insertTokens_insertViews_at_once (frameLines_ne_nil driver)
    (fun line hline => ⟨hframed line hline, (settled_frame driver line hline).mono hsome⟩) hfeed
    hviews (named_tokens driver layout.metadata)
    (fun name hname => feed_continues_no_token name (hsome name hname)) hinserted
  rw [← frame_eq] at hpass hcomposed
  exact ⟨previews, _, hpreviews, render_of_previews hpreviews driver, hpass,
    hpass.trans hcomposed⟩

theorem geometry_preview : Registry.builtin.geometry ({} : Options).previewGeometry =
    .ok Registry.Builtin.iso :=
  rfl

/-- A variant with dollar signs that holds the token of the name stands in a file as it is; the name
does not show. -/
theorem render_at_once_dollars :
    ∃ layout previews text,
      Layout.new { name := "$\x7bversion\x7d".toList, variant := "$1 $\x7bname\x7d".toList }
        "ISO".toList Registry.builtin = .ok layout
      ∧ Driver.previews layout {} = .ok previews
      ∧ render .xkb layout {} = .ok text
      ∧ text = composedAtOnce (frameLines .xkb) ((previews ++ views .xkb layout {}).map padded)
        (ownTokens .xkb ++ metadataTokens layout.metadata) := by
  let metadata : Metadata :=
    { name := "$\x7bversion\x7d".toList, variant := "$1 $\x7bname\x7d".toList }
  obtain ⟨layout, hlayout, hmetadata⟩ : ∃ layout,
      Layout.new metadata "ISO".toList Registry.builtin = .ok layout
        ∧ layout.metadata = metadata := ⟨_, rfl, rfl⟩
  have hinserted : Inserted (shownTokens .xkb)
      (ownTokens .xkb ++ metadataTokens layout.metadata) := by
    rw [hmetadata]
    decide
  obtain ⟨previews, text, hpreviews, hrender, -, htext⟩ :=
    render_at_once (Layout.Reached.new hlayout).equipped geometry_preview .xkb hinserted
  exact ⟨layout, previews, text, hlayout, hpreviews, hrender, htext⟩

/-- The line of the frame that names the variant. -/
def variantLine : Text :=
  "xkb_symbols \"$\x7bvariant\x7d\" \x7b".toList

theorem variantLine_mem : variantLine ∈ frameLines .xkb :=
  List.mem_map_of_mem (by simp [Frame.xkbLines])

/-- The name that stands for the variant shows in a file, put in at once. -/
theorem infix_composedAtOnce_variant {views : List (Text × List Text)}
    (hviews : views.map Prod.fst = viewNames .xkb) {tokens : List (Text × Text)}
    (htokens : Named tokens) {value : Text}
    (hvalue : value <:+: filled tokens (partsOf variantLine)) :
    value <:+: composedAtOnce (frameLines .xkb) views tokens := by
  have hunplaced : ∀ name ∈ viewNames .xkb, variantLine.dropSuffix? (marker name) = none := by
    decide
  have hplaced : placed? views variantLine = none :=
    placed?_eq_none (hviews ▸ hunplaced)
  have hparts : Tokenized (partsOf variantLine) ∧ textOf (partsOf variantLine) = variantLine := by
    decide
  rw [← substituteTokens_textOf htokens hparts.1, hparts.2] at hvalue
  refine hvalue.trans (infix_unlines (List.mem_flatMap.mpr ⟨variantLine, variantLine_mem, ?_⟩))
  rw [hplaced]
  exact List.mem_singleton_self _

/-- A name that holds the token of the version does not stand in a file as it is. -/
theorem render_ne_at_once :
    ∃ layout previews text,
      Layout.new { name := "$\x7bversion\x7d".toList, version := "9".toList } "ISO".toList
        Registry.builtin = .ok layout
      ∧ Driver.previews layout {} = .ok previews
      ∧ render .xkb layout {} = .ok text
      ∧ text ≠ composedAtOnce (frameLines .xkb) ((previews ++ views .xkb layout {}).map padded)
        (ownTokens .xkb ++ metadataTokens layout.metadata) := by
  let metadata : Metadata := { name := "$\x7bversion\x7d".toList, version := "9".toList }
  let layout := Layout.empty metadata Registry.Builtin.iso Registry.builtin
  have hregistry : layout.registry = Registry.builtin := rfl
  obtain ⟨previews, hpreviews, hnames, -⟩ := exists_previews hregistry geometry_preview
  refine ⟨layout, previews, _, rfl, hpreviews, render_of_previews hpreviews .xkb, fun heq => ?_⟩
  -- the version is the last to be replaced, so that its token is left nowhere
  have hlast : ∀ t, ∃ s, insertTokens (ownTokens .xkb ++ metadataTokens metadata) t =
      substituteToken "version".toList "9".toList s := fun t => ⟨_, rfl⟩
  obtain ⟨s, hs⟩ := hlast (insertViews (previews ++ views .xkb layout {}) (frame .xkb))
  have hdisjoint : ∀ c ∈ opening "version".toList '\x7d', c ∉ "9".toList := by
    intro c hc hvalue
    have hdigit : c = '9' := List.mem_singleton.mp hvalue
    exact absurd (hdigit ▸ hc) (by decide)
  have hleft : ¬opening "version".toList '\x7d' <:+:
      substituteToken "version".toList "9".toList s :=
    not_infix_substituteToken (by decide) hdisjoint
  refine hleft ?_
  rw [← hs]
  refine heq ▸ infix_composedAtOnce_variant (map_fst_map_padded (map_fst_views .xkb hnames))
    (named_tokens .xkb metadata) ?_
  decide

end Driver

end KeyboardLayout
