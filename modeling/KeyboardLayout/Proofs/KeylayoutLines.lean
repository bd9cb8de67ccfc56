import KeyboardLayout.Proofs.KeylayoutActions
import KeyboardLayout.Proofs.ViewLines

/-!
# The lines of a keylayout

Every element of a keylayout shows one value between fixed texts (`Shows`), so that a line is as
loose or as verbatim as its value. All values are written in what the layout shows but for one: with
Caps Lock a key types the uppercase of its character, and some characters have marks in their
uppercase (`verbatim_keymapOf_iff`).
-/

namespace KeyboardLayout.Keylayout

open Text

variable {layout : Layout} {keymap : Keymap} {line value : Text} {c : Char} {p : Char → Prop}

/-! ## Elements -/

/-- The line shows the value between texts that no marker, token or mark has a part in. -/
def Shows (line value : Text) : Prop :=
  ∃ opening closing, Quiet opening ∧ Quiet closing ∧ Follows closing
    ∧ opening ++ value ++ closing = line

theorem Shows.written (h : Shows line value) (hp : Admits p) (hvalue : Written p value) :
    Written p line := by
  obtain ⟨opening, closing, hopening, hclosing, hfollows, rfl⟩ := h
  exact hvalue.between hp hopening ⟨hclosing, hfollows⟩

theorem Shows.loose (h : Shows line value) (hvalue : Loose value) : Loose line :=
  (h.written admits_always hvalue.written).loose

theorem Shows.markless_iff (h : Shows line value) :
    (∀ d ∈ line, isMark d = false) ↔ ∀ d ∈ value, isMark d = false := by
  obtain ⟨opening, closing, hopening, hclosing, -, rfl⟩ := h
  refine ⟨fun h d hd => h d (List.mem_append_left _ (List.mem_append_right _ hd)),
    fun h d hd => ?_⟩
  rcases List.mem_append.mp hd with hd | hd
  · rcases List.mem_append.mp hd with hd | hd
    · exact (hopening d hd).2
    · exact h d hd
  · exact (hclosing d hd).2

theorem quiet_decimal (n : Nat) : Quiet (decimal n) := by
  refine quiet_of_digits fun c hc => ?_
  have hdigit : c.isDigit = true := Nat.isDigit_of_mem_toDigits (by decide) (by decide) hc
  have hle : c.toNat ≤ '9'.toNat := by
    rw [Char.isDigit, Bool.and_eq_true] at hdigit
    exact of_decide_eq_true hdigit.2
  have hbounds : '0'.toNat = 48 ∧ '9'.toNat = 57 := ⟨rfl, rfl⟩
  unfold digit?
  simp only [hdigit, if_true]
  rw [Option.filter_some, if_pos (decide_eq_true (by omega))]
  rfl

theorem quoted_append (lead name value behind : Text) :
    lead ++ (name ++ '"' :: (value ++ ['"'])) ++ behind =
      lead ++ name ++ ['"'] ++ value ++ (['"'] ++ behind) := by
  simp

theorem shows_keyElement (code : Nat) (r : Response) : Shows (keyElement code r) r.value := by
  have hfixed : Quiet "<key ".toList ∧ Quiet "code=\"".toList ∧ Quiet ['"'] ∧ Quiet [' '] := by
    decide
  obtain ⟨hkey, hcode, hquote, hspace⟩ := hfixed
  have hname : Quiet r.attributeName := by
    cases r with
    | action id => exact (by decide : Quiet "action=".toList)
    | output text => exact (by decide : Quiet "output=".toList)
  have hattribute := ((hcode.append (quiet_decimal code)).append hquote).padRight 10
  have hopening := (((hkey.append hattribute).append hspace).append hname).append hquote
  refine ⟨_, ['"'] ++ " />".toList, hopening, by decide, by decide, ?_⟩
  unfold keyElement
  rewrite [Response.text_eq]
  exact (quoted_append ..).symm

theorem quiet_stateAttribute {state : Text} (h : Quiet state) : Quiet (stateAttribute state) := by
  have hstate : Quiet "state=\"".toList := by decide
  have hquote : Quiet ['"'] := by decide
  exact ((hstate.append h).append hquote).padRight 18

theorem When.shows {w : When} (h : Quiet w.state) : Shows w.text w.transition.value := by
  have hfixed : Quiet "  <when ".toList ∧ Quiet [' '] ∧ Quiet ['"'] := by decide
  obtain ⟨hwhen, hspace, hquote⟩ := hfixed
  have hname : Quiet w.transition.attributeName := by
    cases w.transition with
    | next state => exact (by decide : Quiet "next=".toList)
    | output text => exact (by decide : Quiet "output=".toList)
  have hopening :=
    (((hwhen.append (quiet_stateAttribute h)).append hspace).append hname).append hquote
  refine ⟨_, ['"'] ++ " />".toList, hopening, by decide, by decide, ?_⟩
  unfold When.text
  rewrite [Transition.text_eq]
  exact (quoted_append ..).symm

theorem shows_actionOpening (id : Text) :
    Shows ("<action id=\"".toList ++ id ++ "\">".toList) id :=
  ⟨_, _, by decide, by decide, by decide, rfl⟩

theorem shows_terminatorLine {dk : DeadKey} (h : Quiet dk.name) :
    Shows (terminatorLine dk) (xml dk.altSelf) := by
  have hfixed : Quiet " <when ".toList ∧ Quiet " output=\"".toList := by decide
  have hopening := (hfixed.1.append (quiet_stateAttribute h)).append hfixed.2
  exact ⟨_, "\" />".toList, hopening, by decide, by decide, rfl⟩

/-! ## Actions -/

/-- All values of the action are written in the characters. -/
structure Action.Legible (p : Char → Prop) (action : Action) : Prop where
  id : Written p action.id
  whens : ∀ w ∈ action.whens, Quiet w.state ∧ Written p w.transition.value

theorem Action.Legible.lines {action : Action} (h : action.Legible p) (hp : Admits p) :
    ∀ line ∈ action.lines, Written p line := by
  intro line hline
  rcases List.mem_append.mp hline with hline | hline
  · rcases List.mem_cons.mp hline with rfl | hline
    · exact (shows_actionOpening action.id).written hp h.id
    · obtain ⟨w, hw, rfl⟩ := List.mem_map.mp hline
      obtain ⟨hstate, hvalue⟩ := h.whens w hw
      exact (When.shows hstate).written hp hvalue
  · have hend : Verbatim "</action>".toList := by decide
    rw [List.mem_singleton.mp hline]
    exact hend.written hp

theorem quiet_deadKeyId (h : layout.Legible p) {dk : DeadKey} (hdk : dk ∈ layout.deadKeys) :
    Quiet (deadKeyId dk) := by
  have hdead : Quiet "dead_".toList := by decide
  exact hdead.append (h.name hdk)

theorem written_transition (h : layout.Legible p) (hc : layout.deadKey? c = none → p c) :
    Written p (transition layout c).value := by
  unfold transition
  cases hdk : layout.deadKey? c with
  | none => exact written_xml h.admits (hc hdk)
  | some dk => exact (h.name (Layout.mem_of_deadKey? hdk).1).written h.admits

theorem written_actionId (h : layout.Legible p) (hc : layout.deadKey? c = none → p c) :
    Written p (actionId layout c) := by
  unfold actionId
  cases hdk : layout.deadKey? c with
  | none => exact written_xml h.admits (hc hdk)
  | some dk => exact (quiet_deadKeyId h (Layout.mem_of_deadKey? hdk).1).written h.admits

theorem quiet_none : Quiet "none".toList := by decide

theorem legible_actionOf (h : layout.Legible p) (hc : layout.deadKey? c = none → p c) :
    (actionOf layout c).Legible p := by
  refine ⟨written_actionId h hc, fun w hw => ?_⟩
  rcases List.mem_cons.mp hw with rfl | hw
  · exact ⟨quiet_none, written_transition h hc⟩
  · obtain ⟨dk, hdk, hcomposed⟩ := List.mem_filterMap.mp hw
    obtain ⟨alt, halt, rfl⟩ := Option.map_eq_some_iff.mp hcomposed
    rw [DeadKey.result?_eq_lookup] at halt
    have hpaired := (h.paired dk hdk _ (Table.mem_of_lookup halt)).2
    exact ⟨h.name hdk, written_transition h hpaired⟩

theorem legible_spaceActions (h : layout.Legible p) :
    ∀ action ∈ spaceActions layout, action.Legible p := by
  have hspace : ∀ {id none : Text}, Verbatim id → Verbatim none →
      (spaceAction layout id none).Legible p := by
    intro id none hid hnone
    refine ⟨hid.written h.admits, fun w hw => ?_⟩
    rcases List.mem_cons.mp hw with rfl | hw
    · exact ⟨quiet_none, hnone.written h.admits⟩
    · obtain ⟨dk, hdk, rfl⟩ := List.mem_map.mp hw
      exact ⟨h.name hdk, written_xml h.admits (h.altSpace hdk)⟩
  intro action haction
  simp only [spaceActions, List.mem_cons, List.not_mem_nil, or_false] at haction
  rcases haction with rfl | rfl
  · exact hspace (by decide) (by decide)
  · exact hspace (by decide) (by decide)

/-- Every character that gets an action stands on some key. -/
theorem exists_symbol_of_mem_acting (h : c ∈ acting layout) :
    ∃ key level, layout.symbol key level = some c := by
  obtain ⟨key, -, hkey⟩ := List.mem_flatMap.mp ((unseen_sublist ..).subset h)
  rcases mem_keyActors.mp hkey with ⟨-, hc | hc⟩ | ⟨-, level, -, hc⟩
  · exact ⟨key, _, hc⟩
  · exact ⟨key, _, hc⟩
  · exact ⟨key, level, hc⟩

theorem legible_actions (h : layout.Legible p) : ∀ action ∈ actions layout, action.Legible p := by
  intro action haction
  rcases mem_actions_iff.mp haction with hspace | ⟨c, hc, rfl⟩
  · exact legible_spaceActions h action hspace
  · obtain ⟨key, level, hsymbol⟩ := exists_symbol_of_mem_acting hc
    exact legible_actionOf h (h.stored key level c hsymbol)

/-- Every line of the actions is written in what the layout shows. -/
theorem written_actionLines (h : layout.Legible p) :
    ∀ line ∈ actionLines layout, Written p line := by
  have hactions := legible_actions h
  have hlines : ∀ {some : List Action}, (∀ action ∈ some, action ∈ actions layout) →
      ∀ line ∈ some.flatMap Action.lines, Written p line := by
    intro some hsome line hline
    obtain ⟨action, haction, hin⟩ := List.mem_flatMap.mp hline
    exact (hactions action (hsome action haction)).lines h.admits line hin
  unfold actions at hlines
  intro line hline
  simp only [actionLines, List.append_assoc, List.mem_append] at hline
  rcases hline with hline | hline | hline | hline
  · exact hlines (fun action haction => by simp [haction]) line hline
  · have htitle : Verbatim (Sectioned.xmlTitle "Spacebar".toList) := by decide
    simp only [List.mem_cons, List.not_mem_nil, or_false] at hline
    rcases hline with rfl | rfl
    · exact Written.nil
    · exact htitle.written h.admits
  · exact hlines (fun action haction => by simp [haction]) line hline
  · obtain ⟨item, hitem, hline⟩ := List.mem_flatMap.mp hline
    rcases List.mem_append.mp hline with hline | hline
    · have hgroup := mem_sections_of_mem_sectionActors hitem
      simp only [List.mem_cons, List.not_mem_nil, or_false] at hline
      rcases hline with rfl | rfl
      · exact Written.nil
      · exact (verbatim_titles _ hgroup).2.written h.admits
    · refine hlines (fun action haction => List.mem_append_right _ ?_) line hline
      exact List.mem_flatMap.mpr ⟨item, hitem, haction⟩

/-- Every terminator is written in what the layout shows. -/
theorem written_terminatorLines (h : layout.Legible p) :
    ∀ line ∈ terminatorLines layout, Written p line := by
  intro line hline
  obtain ⟨dk, hdk, rfl⟩ := List.mem_map.mp hline
  exact (shows_terminatorLine (h.name hdk)).written h.admits (written_xml h.admits (h.altSelf hdk))

/-! ## Keymaps -/

/-- No spelling of several characters begins a marker or a token, in an attribute. -/
theorem inert_spellings : ∀ entry ∈ Unicode.uppercaseMap.spellings,
    Inert ((entry.2.map Char.ofNat).flatMap xml) := by
  decide

theorem loose_xml (c : Char) : Loose (xml c) :=
  (written_xml admits_always trivial).loose

theorem feed_not_mem_xml (h : c ≠ '\n') : '\n' ∉ xml c := by
  have hadmits : Admits (· ≠ '\n') := fun _ hd => hd.1
  exact fun hmem => (written_xml hadmits h).all _ hmem rfl

/-- The uppercase of a character is loose in an attribute, and one line unless it is a line feed. -/
theorem upper_spec (c : Char) : Loose ((upperChar c).flatMap xml)
    ∧ (c ≠ '\n' → '\n' ∉ (upperChar c).flatMap xml) := by
  rcases Unicode.CaseMap.apply_cases Unicode.uppercaseMap c with ⟨spelling, hmem, heq⟩ | ⟨d, heq⟩
  · have hinert := inert_spellings _ hmem
    rw [upperChar, heq]
    exact ⟨hinert.loose, fun _ => hinert.feed⟩
  · rw [upperChar, heq, List.flatMap_singleton]
    refine ⟨loose_xml d, fun hc => feed_not_mem_xml ?_⟩
    rintro rfl
    have hsingle : single? (Unicode.uppercaseMap.apply c) = some '\n' := by rw [heq, single?]
    exact hc (Unicode.CaseMap.eq_of_avoids uppercase_avoids_feed (by decide) hsingle
      (Nat.le_refl _) (Nat.le_refl _)).symm

theorem markless_flatMap_xml (t : Text) :
    (∀ d ∈ t.flatMap xml, isMark d = false) ↔ ∀ d ∈ t, isMark d = false := by
  simp only [List.mem_flatMap, forall_exists_index, and_imp]
  refine ⟨fun h c hc => (isMark_xml c).mp fun d hd => h d c hc hd,
    fun h d c hc hd => (isMark_xml c).mpr (h c hc) d hd⟩

/-- What a key types on the keymap if its character is no dead key. -/
def Keymap.typed : Keymap → Char → Text
  | plain _, c => [c]
  | caps, c => upperChar c

theorem value_respond (h : layout.deadKey? c = none) (keymap : Keymap) :
    (respond layout keymap c).value = (keymap.typed c).flatMap xml := by
  unfold respond
  rw [h]
  cases keymap with
  | plain level =>
      rw [Keymap.typed, List.flatMap_singleton]
      simp only
      split <;> rfl
  | caps =>
      simp only
      split <;> rfl

theorem quiet_value_respond (h : layout.Legible p) {dk : DeadKey}
    (hdk : layout.deadKey? c = some dk) (keymap : Keymap) : Quiet (respond layout keymap c).value := by
  unfold respond
  rw [hdk]
  exact quiet_deadKeyId h (Layout.mem_of_deadKey? hdk).1

theorem typed_spec (keymap : Keymap) (c : Char) : Loose ((keymap.typed c).flatMap xml)
    ∧ (c ≠ '\n' → '\n' ∉ (keymap.typed c).flatMap xml) := by
  cases keymap with
  | plain level =>
      rw [Keymap.typed, List.flatMap_singleton]
      exact ⟨loose_xml c, feed_not_mem_xml⟩
  | caps => exact upper_spec c

/-- A key shows a loose value. It is one line if what the layout shows is no line feed, and holds no
mark if what the key types holds none. -/
theorem response_spec (h : layout.Legible p) (keymap : Keymap) (key : Key) :
    Loose (response layout keymap key).value
      ∧ ((∀ c, p c → c ≠ '\n') → '\n' ∉ (response layout keymap key).value)
      ∧ ((∀ d ∈ (response layout keymap key).value, isMark d = false) ↔
        ∀ c, layout.symbol key keymap.level = some c → layout.isDeadKey c = false →
          ∀ d ∈ keymap.typed c, isMark d = false) := by
  unfold response
  cases hc : layout.symbol key keymap.level with
  | none =>
      have hnothing : Verbatim noOutput := by decide
      exact ⟨hnothing.loose, fun _ => hnothing.feed,
        iff_of_true hnothing.markless fun c hsome => by cases hsome⟩
  | some c =>
      simp only [Option.some.injEq, forall_eq']
      cases hdk : layout.deadKey? c with
      | some dk =>
          have hverbatim := (quiet_value_respond h hdk keymap).verbatim
          refine ⟨hverbatim.loose, fun _ => hverbatim.feed,
            iff_of_true hverbatim.markless fun hfalse => ?_⟩
          rw [isDeadKey_eq_false_iff, hdk] at hfalse
          cases hfalse
      | none =>
          rw [value_respond hdk, markless_flatMap_xml]
          obtain ⟨hloose, hfeed⟩ := typed_spec keymap c
          refine ⟨hloose, fun hp => hfeed (hp c (h.stored key _ c hc hdk)), ?_⟩
          exact ⟨fun h _ => h, fun h => h (isDeadKey_eq_false_iff.mpr hdk)⟩

/-- The lines of a keymap are loose. -/
theorem loose_keymapOf (h : layout.Legible p) (keymap : Keymap) :
    ∀ line ∈ keymapOf layout keymap, Loose line := by
  refine Sectioned.forall_mem_listing (by decide)
    (fun group hgroup => (verbatim_titles group hgroup).2.loose) fun key line hline => ?_
  rw [List.mem_singleton.mp hline]
  exact (shows_keyElement _ _).loose (response_spec h keymap key).1

theorem inert_keymapOf (h : layout.Legible Inline) (keymap : Keymap) :
    ∀ line ∈ keymapOf layout keymap, Inert line := by
  have hadmits : Admits (· ≠ '\n') := fun _ hc => hc.1
  refine Sectioned.forall_mem_listing (by decide)
    (fun group hgroup => (verbatim_titles group hgroup).2.toInert) fun key line hline => ?_
  obtain ⟨hloose, hfeed, -⟩ := response_spec h keymap key
  have hvalue : Written (· ≠ '\n') (response layout keymap key).value :=
    ⟨hloose, fun c hc heq => hfeed (fun _ hd => hd.1) (heq ▸ hc)⟩
  have hwritten : Written (· ≠ '\n') (keyLine layout keymap key) :=
    (shows_keyElement _ _).written hadmits hvalue
  rw [List.mem_singleton.mp hline]
  exact ⟨fun hmem => hwritten.all _ hmem rfl, hwritten.loose⟩

/-- They are verbatim if no key types a mark. -/
theorem verbatim_keymapOf_iff (h : layout.Legible Inline) (keymap : Keymap) :
    (∀ line ∈ keymapOf layout keymap, Verbatim line) ↔
      ∀ key c, layout.symbol key keymap.level = some c → layout.isDeadKey c = false →
        ∀ d ∈ keymap.typed c, isMark d = false := by
  constructor
  · intro hlines key
    have hline := hlines _ (keyLine_mem_keymapOf layout keymap key)
    obtain ⟨-, -, hmarkless⟩ := response_spec h keymap key
    exact hmarkless.mp ((shows_keyElement _ _).markless_iff.mp hline.markless)
  · intro htyped
    have hinert := inert_keymapOf h keymap
    refine fun line hline => ⟨hinert line hline, ?_⟩
    refine Sectioned.forall_mem_listing (P := fun line => ∀ d ∈ line, isMark d = false)
      (fun _ hnil => absurd hnil List.not_mem_nil)
      (fun group hgroup => (verbatim_titles group hgroup).2.markless) (fun key line hline => ?_)
      line hline
    obtain ⟨-, -, hmarkless⟩ := response_spec h keymap key
    rw [List.mem_singleton.mp hline]
    exact (shows_keyElement _ _).markless_iff.mpr (hmarkless.mpr (htyped key))

/-- Without Caps Lock every line of a keymap is written in what the layout shows. -/
theorem written_keymapOf_plain (h : layout.Legible p) (level : Level) :
    ∀ line ∈ keymapOf layout (.plain level), Written p line := by
  refine Sectioned.forall_mem_listing Written.nil
    (fun group hgroup => (verbatim_titles group hgroup).2.written h.admits) fun key line hline => ?_
  rw [List.mem_singleton.mp hline]
  refine (shows_keyElement _ _).written h.admits ?_
  unfold response
  cases hc : layout.symbol key (Keymap.plain level).level with
  | none =>
      have hnothing : Quiet noOutput := by decide
      exact hnothing.written h.admits
  | some c =>
      show Written p (respond layout (.plain level) c).value
      cases hdk : layout.deadKey? c with
      | some dk => exact (quiet_value_respond h hdk _).written h.admits
      | none =>
          rw [value_respond hdk, Keymap.typed, List.flatMap_singleton]
          exact written_xml h.admits (h.stored key level c hc hdk)

end KeyboardLayout.Keylayout
