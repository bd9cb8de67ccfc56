import KeyboardLayout.Proofs.DriverValues

/-!
# What is left of placeholders

Nothing in a driver file looks like a placeholder if nothing in the metadata does. The views are
loose, so that it is a matter of the lines of the frame: where a value is put into a line, what
starts a placeholder cannot arise across the ends of the value, as no character beside a token is
part of it (`Guarded`), and it stands neither in the value nor in the rest of the line
(`not_infix_filled`). So whatever the layout types, a driver file has no token and no marker left
(`render_without_remnants`).
-/

namespace KeyboardLayout

open Text Placeholder

namespace Text

/-- What stands in a text stands on one side of a character that is no part of it. -/
theorem infix_of_infix_append_cons {s t u : Text} {d : Char} (hd : d ∉ t)
    (h : t <:+: s ++ d :: u) : t <:+: s ∨ t <:+: u := by
  obtain ⟨before, behind, heq⟩ := h
  rw [List.append_assoc] at heq
  rcases List.append_eq_append_iff.mp heq with ⟨rest, rfl, hrest⟩ | ⟨rest, rfl, hrest⟩
  · rcases List.append_eq_append_iff.mp hrest with ⟨more, rfl, -⟩ | ⟨more, rfl, hmore⟩
    · exact Or.inl ⟨before, more, List.append_assoc ..⟩
    · cases more with
      | nil => exact Or.inl ⟨before, [], by simp⟩
      | cons e more =>
          obtain ⟨rfl, -⟩ := List.cons.inj hmore
          exact absurd (List.mem_append_right _ (List.mem_cons_self ..)) hd
  · cases rest with
    | cons e rest =>
        obtain ⟨-, rfl⟩ := List.cons.inj hrest
        exact Or.inr ⟨rest, behind, List.append_assoc ..⟩
    | nil =>
        cases t with
        | nil => exact Or.inl List.nil_infix
        | cons e t =>
            obtain ⟨rfl, -⟩ := List.cons.inj hrest
            exact absurd (List.mem_cons_self ..) hd

/-- What stands in a text of lines stands in one of them. -/
theorem exists_infix_of_infix_unlines {t : Text} (hne : t ≠ []) (hfeed : '\n' ∉ t)
    {pieces : List Text} (h : t <:+: unlines pieces) : ∃ piece ∈ pieces, t <:+: piece := by
  induction pieces with
  | nil => exact absurd (List.infix_nil.mp h) hne
  | cons piece rest ih =>
      cases rest with
      | nil =>
          rw [unlines_singleton] at h
          exact ⟨piece, List.mem_singleton_self _, h⟩
      | cons next rest =>
          rw [unlines_cons_cons] at h
          rcases infix_of_infix_append_cons hfeed h with hpiece | hrest
          · exact ⟨piece, List.mem_cons_self .., hpiece⟩
          · obtain ⟨other, hother, hinfix⟩ := ih hrest
            exact ⟨other, List.mem_cons_of_mem _ hother, hinfix⟩

end Text

namespace Text.Placeholder

variable {t s : Text} {parts : List Part} {tokens : List (Text × Text)} {names shown : List Text}
  {line : Text}

/-! ## Tokens with guards -/

/-- No character beside a token is part of the text, and tokens are not beside each other. -/
def Part.Fenced (t : Text) : Part → Part → Prop
  | char _, char _ => True
  | char c, token _ _ => c ∉ t
  | token _ _, char c => c ∉ t
  | token _ _, token _ _ => False

/-- The part with its token taken out. -/
def Part.hollowed : Part → Text
  | char c => [c]
  | token _ _ => ['\n']

/-- The default of a token does not hold the text. -/
def Part.Lacks (t : Text) : Part → Prop
  | char _ => True
  | token _ default? => ∀ value ∈ default?, ¬t <:+: value

/-- The text stands nowhere beside or between the tokens, and can only come about in a value. -/
structure Guarded (t : Text) (parts : List Part) : Prop where
  fenced : parts.IsChain (Part.Fenced t)
  lacks : ∀ part ∈ parts, part.Lacks t
  rest : ¬t <:+: parts.flatMap Part.hollowed

instance : DecidableRel (Part.Fenced t)
  | .char _, .char _ => isTrue trivial
  | .char _, .token _ _ => inferInstanceAs (Decidable (¬_))
  | .token _ _, .char _ => inferInstanceAs (Decidable (¬_))
  | .token _ _, .token _ _ => isFalse id

instance : DecidablePred (Part.Lacks t)
  | .char _ => isTrue trivial
  | .token _ default? => Option.decidableForallMem default?

instance (t : Text) (parts : List Part) : Decidable (Guarded t parts) :=
  decidable_of_iff (parts.IsChain (Part.Fenced t) ∧ (∀ part ∈ parts, part.Lacks t)
      ∧ ¬t <:+: parts.flatMap Part.hollowed)
    ⟨fun h => ⟨h.1, h.2.1, h.2.2⟩, fun h => ⟨h.fenced, h.lacks, h.rest⟩⟩

theorem not_infix_append_filled {value : Text} {name : Text} {default? : Option Text}
    (hvalue : ¬t <:+: value) (hparts : ¬t <:+: filled tokens parts)
    (hnext : ∀ part ∈ parts.head?, (Part.token name default?).Fenced t part) :
    ¬t <:+: value ++ filled tokens parts := by
  cases parts with
  | nil => rwa [filled, List.flatMap_nil, List.append_nil]
  | cons next rest =>
      have hnext := hnext next rfl
      cases next with
      | token _ _ => exact hnext.elim
      | char c =>
          rw [filled_cons] at hparts ⊢
          intro h
          rcases infix_of_infix_append_cons hnext h with h | h
          · exact hvalue h
          · exact hparts (List.infix_cons h)

/-- The text does not come about where tokens give way to values that do not hold it. -/
theorem not_infix_filled (h : Guarded t parts)
    (hvalues : ∀ name default?, .token name default? ∈ parts →
      ¬t <:+: (Part.token name default?).filled tokens) :
    ¬t <:+: filled tokens parts := by
  -- the induction is on the parts behind a text that the first of them is fenced from
  suffices hbehind : ∀ s : Text, ¬t <:+: s ++ parts.flatMap Part.hollowed →
      (∀ c ∈ s.getLast?, ∀ part ∈ parts.head?, (Part.char c).Fenced t part) →
      ¬t <:+: s ++ filled tokens parts from
    hbehind [] h.rest fun _ hc => nomatch hc
  obtain ⟨hfenced, -, -⟩ := h
  induction parts with
  | nil => exact fun s hs _ => hs
  | cons part rest ih =>
      have hrest := ih (fun name default? hpart =>
        hvalues name default? (List.mem_cons_of_mem _ hpart)) hfenced.of_cons
      have hnext := (List.isChain_cons.mp hfenced).1
      intro s hs hmeet
      rw [List.flatMap_cons] at hs
      rw [filled_cons]
      cases part with
      | char c =>
          rw [← List.append_assoc] at hs ⊢
          refine hrest (s ++ [c]) hs fun d hd next hmem => ?_
          obtain rfl : c = d := by simpa using hd
          exact hnext next hmem
      | token name default? =>
          have hbefore : ¬t <:+: s := fun h => hs (h.trans (List.prefix_append ..).isInfix)
          have hhollowed : ¬t <:+: rest.flatMap Part.hollowed := fun h =>
            hs (h.trans ⟨s ++ ['\n'], [], by simp [Part.hollowed]⟩)
          have hcut := not_infix_append_filled (hvalues name default? (List.mem_cons_self ..))
            (hrest [] hhollowed fun _ hc => nomatch hc) hnext
          rcases List.eq_nil_or_concat' s with rfl | ⟨front, d, rfl⟩
          · exact hcut
          · have hd : d ∉ t := hmeet d (by simp) _ rfl
            rw [List.append_assoc, List.singleton_append]
            intro h
            rcases infix_of_infix_append_cons hd h with h | h
            · exact hbefore (h.trans (List.prefix_append ..).isInfix)
            · exact hcut h

/-- What starts a token, and what starts a marker. -/
def remnants : List Text :=
  ["$\x7b".toList, "KALAMINE::".toList]

/-- The text looks nowhere like a placeholder. -/
def Remnantless (s : Text) : Prop :=
  ∀ t ∈ remnants, ¬t <:+: s

theorem Plain.not_opens (h : Plain s) (name : Text) : ¬Opens name s := by
  rintro ⟨stop, -, hopening⟩
  refine plain_iff.mp h (List.IsInfix.trans ?_ hopening)
  exact ⟨[], name ++ [stop], rfl⟩

theorem Loose.remnantless (h : Loose s) : Remnantless s := by
  intro t ht hinfix
  simp only [remnants, List.mem_cons, List.not_mem_nil, or_false] at ht
  rcases ht with rfl | rfl
  · exact plain_iff.mp h.plain hinfix
  · exact h.markerless (List.IsInfix.trans (by decide) hinfix)

/-- What makes a line that is not replaced end up without a placeholder: it has none, or its tokens
are guarded. -/
def Safe (names shown : List Text) (line : Text) : Prop :=
  ('$' ∉ line ∧ Remnantless line) ∨
    (Tokenized (partsOf line) ∧ Sealed names shown (partsOf line)) ∧ textOf (partsOf line) = line
      ∧ ∀ t ∈ remnants, Guarded t (partsOf line)

instance (s : Text) : Decidable (Remnantless s) :=
  List.decidableBAll _ remnants

instance (names shown : List Text) (line : Text) : Decidable (Safe names shown line) :=
  have : Decidable (∀ t ∈ remnants, Guarded t (partsOf line)) := List.decidableBAll _ remnants
  inferInstanceAs (Decidable (_ ∨ _))

theorem remnantless_filled_token {name : Text} {default? : Option Text}
    (hlacks : ∀ t ∈ remnants, (Part.token name default?).Lacks t)
    (htokens : ∀ token ∈ tokens, Remnantless token.2) (hname : name ∈ tokens.map Prod.fst) :
    Remnantless ((Part.token name default?).filled tokens) := by
  have hsome : (tokens.lookup name).isSome = true := by
    obtain ⟨token, htoken, rfl⟩ := List.mem_map.mp hname
    exact List.lookup_isSome_iff.mpr ⟨token, htoken, beq_self_eq_true _⟩
  obtain ⟨value, hvalue⟩ := Option.isSome_iff_exists.mp hsome
  obtain ⟨before, behind, hsplit, -⟩ := List.lookup_eq_some_iff.mp hvalue
  have hfound : Remnantless value :=
    htokens (name, value) (hsplit ▸ List.mem_append_right _ (List.mem_cons_self ..))
  rw [Part.filled_token, hvalue, Option.elim_some]
  unfold chosen
  split
  · cases default? with
    | none => exact hfound
    | some text => exact fun t ht => hlacks t ht text rfl
  · exact hfound

/-- Tokens go into a safe line without leaving or forging a placeholder. -/
theorem remnantless_insertTokens (hnames : ∀ name ∈ tokens.map Prod.fst, name ∈ names)
    (hshown : ∀ name ∈ shown, name ∈ tokens.map Prod.fst) (hassignable : Assignable tokens)
    (htokens : ∀ token ∈ tokens, Remnantless token.2) (h : Safe names shown line) :
    Remnantless (Driver.insertTokens tokens line) := by
  rcases h with ⟨hdollar, hline⟩ | ⟨⟨hparts, hsealed, hamong⟩, htext, hguarded⟩
  · rwa [insertTokens_of_plain hassignable (plain_of_not_mem hdollar)]
  · have hinserted : Inserted shown tokens :=
      List.pairwise_of_forall_mem_list fun token htoken later _ _ =>
        (hassignable token htoken).2.not_opens later.1
    have hfilled : Driver.insertTokens tokens line = filled tokens (partsOf line) := by
      have hnamed : Named tokens := fun token htoken => (hassignable token htoken).1
      have hinsert := @insertTokens_filled shown tokens [] (partsOf line) hnamed hinserted hparts
        hamong fun token htoken =>
          hsealed token.1 (hnames token.1 (List.mem_map_of_mem htoken))
      rwa [filled_nil, htext] at hinsert
    rw [hfilled]
    intro t ht
    refine not_infix_filled (hguarded t ht) fun name default? hpart => ?_
    exact remnantless_filled_token (fun t ht => (hguarded t ht).lacks _ hpart) htokens
      (hshown name (hamong _ hpart)) t ht

end Text.Placeholder

/-! ## Driver files -/

namespace Driver

variable {layout : Layout} {options : Options}

/-- Every line is one that a view takes the place of, or is safe. -/
def Swept (names shown lines : List Text) : Prop :=
  ∀ line ∈ lines, (∃ name ∈ names, (line.dropSuffix? (marker name)).isSome)
    ∨ Safe tokenNames shown line

instance (names shown lines : List Text) : Decidable (Swept names shown lines) :=
  List.decidableBAll _ lines

theorem swept_of_spelled {names shown spelled lines : List Text} (h : lines = spelled)
    (hspelled : Swept names shown spelled) : Swept names shown lines :=
  h ▸ hspelled

set_option maxRecDepth 1500 in
theorem swept_xkb : Swept (viewNames .xkb) (shownTokens .xkb) (frameLines .xkb) := by
  apply swept_of_spelled
  · unfold frameLines Frame.xkbLines
    repeat (apply Registry.cons_toList_eq rfl)
    rfl
  · decide +kernel

set_option maxRecDepth 1500 in
theorem swept_klc : Swept (viewNames .klc) (shownTokens .klc) (frameLines .klc) := by
  apply swept_of_spelled
  · unfold frameLines Frame.klcLines
    repeat (apply Registry.cons_toList_eq rfl)
    rfl
  · decide +kernel

set_option maxRecDepth 1500 in
theorem swept_keylayout :
    Swept (viewNames .keylayout) (shownTokens .keylayout) (frameLines .keylayout) := by
  apply swept_of_spelled
  · unfold frameLines Frame.keylayoutLines
    repeat (apply Registry.cons_toList_eq rfl)
    rfl
  · decide +kernel

theorem swept_frame (driver : Driver) :
    Swept driver.viewNames driver.shownTokens driver.frameLines := by
  cases driver with
  | xkb => exact swept_xkb
  | klc => exact swept_klc
  | keylayout => exact swept_keylayout

/-- Every token of a frame has a value. -/
theorem mem_tokens_of_shown (driver : Driver) (metadata : Metadata) :
    ∀ name ∈ driver.shownTokens,
      name ∈ (driver.ownTokens ++ metadataTokens metadata).map Prod.fst := by
  rw [map_fst_tokens]
  cases driver <;> decide

/-- A driver file has no placeholder left, whatever the layout types. -/
theorem remnantless_render (h : layout.Equipped) {board : Geometry}
    (hmetadata : ∀ value ∈ layout.metadata.values, Remnantless value)
    (hboard : Registry.builtin.geometry options.previewGeometry = .ok board) (driver : Driver) :
    ∃ text, driver.render layout options = .ok text ∧ Remnantless text := by
  obtain ⟨previews, hpreviews, hnames, hloose⟩ := exists_previews h.registry_eq hboard
  obtain ⟨hframed, hfeed, hviews⟩ := fits_frame h.legible driver options hnames hloose
  have hassignable := assignable_tokens driver fun value hvalue =>
    hmetadata value hvalue "$\x7b".toList (List.mem_cons_self ..)
  have hvalues := forall_mem_tokens (p := Remnantless) (by decide) hmetadata driver
  refine ⟨_, render_of_previews hpreviews driver, ?_⟩
  rw [frame_eq, insertTokens_insertViews (frameLines_ne_nil driver) hframed hfeed hviews
    hassignable]
  intro t ht hinfix
  have hspelled : ∀ t ∈ remnants, t ≠ [] ∧ '\n' ∉ t := by decide
  obtain ⟨piece, hpiece, hin⟩ :=
    exists_infix_of_infix_unlines (hspelled t ht).1 (hspelled t ht).2 hinfix
  obtain ⟨line, hline, hpiece⟩ := List.mem_flatMap.mp hpiece
  suffices hfree : Remnantless piece from hfree t ht hin
  cases hplaced : placed? ((previews ++ driver.views layout options).map padded) line with
  | some shown =>
      rw [hplaced] at hpiece
      exact Loose.remnantless
        (loose_of_placed? (hframed line hline) hviews hplaced piece hpiece)
  | none =>
      rw [hplaced, Option.getD_none, List.mem_singleton] at hpiece
      rw [hpiece]
      rcases swept_frame driver line hline with ⟨name, hname, hsome⟩ | hsafe
      · -- a line that ends with a marker has been replaced
        rw [← map_fst_views driver hnames, ← map_fst_map_padded rfl] at hname
        obtain ⟨view, hview, rfl⟩ := List.mem_map.mp hname
        have hnone := List.findSome?_eq_none_iff.mp hplaced view hview
        rw [Option.map_eq_none_iff] at hnone
        rw [hnone] at hsome
        cases hsome
      · exact remnantless_insertTokens (mem_tokenNames driver layout.metadata)
          (mem_tokens_of_shown driver layout.metadata) hassignable hvalues hsafe

/-- **No placeholder is left.** If no text of the metadata holds what starts a token or a marker,
neither does any driver file of a layout from a text, drawn on any built-in board, with or without
descriptions. -/
theorem render_without_remnants {t : Text} (h : Layout.ofText Registry.builtin t = .ok layout)
    {board : Geometry}
    (hmetadata : ∀ value ∈ layout.metadata.values,
      ¬"$\x7b".toList <:+: value ∧ ¬"KALAMINE::".toList <:+: value)
    (hboard : Registry.builtin.geometry options.previewGeometry = .ok board) (driver : Driver) :
    ∃ text, driver.render layout options = .ok text
      ∧ ¬"$\x7b".toList <:+: text ∧ ¬"KALAMINE::".toList <:+: text := by
  have hpair : ∀ s : Text, Remnantless s ↔
      ¬"$\x7b".toList <:+: s ∧ ¬"KALAMINE::".toList <:+: s := fun s => by
    simp [Remnantless, remnants]
  obtain ⟨text, hrender, htext⟩ := remnantless_render (Layout.equipped_of_ofText h)
    (fun value hvalue => (hpair value).mpr (hmetadata value hvalue)) hboard driver
  exact ⟨text, hrender, (hpair text).mp htext⟩

/-- The keys of a layout type the signs that placeholders are made of, next to each other. -/
theorem render_without_remnants_signs :
    ∃ layout text,
      Layout.ofText Registry.builtin
          (Layout.sketch [(5, 8, '$'), (5, 14, '\x7b'), (8, 9, ':'), (8, 15, ':')] []) = .ok layout
      ∧ layout.symbol .ad01 .base = some '$' ∧ layout.symbol .ad02 .base = some '\x7b'
      ∧ render .klc layout {} = .ok text
      ∧ ¬"$\x7b".toList <:+: text ∧ ¬"KALAMINE::".toList <:+: text := by
  obtain ⟨layout, h, hchecked⟩ := Layout.exists_of_any_toOption Registry.builtin
    (Layout.sketch [(5, 8, '$'), (5, 14, '\x7b'), (8, 9, ':'), (8, 15, ':')] [])
    (fun layout => layout.metadata == {} && layout.symbol .ad01 .base == some '$'
      && layout.symbol .ad02 .base == some '\x7b')
    (by decide +kernel)
  simp only [Bool.and_eq_true, beq_iff_eq] at hchecked
  obtain ⟨⟨hmetadata, hdollar⟩, hbrace⟩ := hchecked
  have hvalues : ∀ value ∈ layout.metadata.values,
      ¬"$\x7b".toList <:+: value ∧ ¬"KALAMINE::".toList <:+: value := by
    rw [hmetadata]
    decide
  obtain ⟨text, hrender, htext⟩ :=
    render_without_remnants h hvalues geometry_preview .klc
  exact ⟨layout, text, h, hdollar, hbrace, hrender, htext⟩

end Driver

end KeyboardLayout
