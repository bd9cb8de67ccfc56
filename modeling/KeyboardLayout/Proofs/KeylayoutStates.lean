import KeyboardLayout.Proofs.Boards
import KeyboardLayout.Proofs.DeadKeyOrder
import KeyboardLayout.Proofs.KeylayoutMachine

/-!
# The states of a keylayout

Every state that the emitted lines speak of is a dead key of the layout, and every dead key is
complete: some key brings it, one action leads to its state, the actions of the space bar lead out
of it, and it has one terminator. No action says two things about one state (`nodup_states`), so
that each of these elements is the only one of its kind (`states_closed`).
-/

namespace KeyboardLayout

/-! ## Dead keys on keys -/

/-- Some key of a drawn layout brings each of its dead keys. -/
theorem Layout.Drawn.exists_symbol_of_mem_deadKeys {layout : Layout} {registry : Registry}
    (h : layout.Drawn registry) (hkeys : layout.geometry.keys.Nodup) {dk : DeadKey}
    (hdk : dk ∈ layout.deadKeys) : ∃ key level, layout.symbol key level = some dk.marker := by
  rw [h.deadKeys_eq hkeys, List.mem_eraseDups] at hdk
  obtain ⟨c, htyped, hc⟩ := List.mem_filterMap.mp hdk
  rw [Registry.marker_of_deadKey? hc]
  exact h.mem_typed_iff.mp htyped

namespace Keylayout

variable {layout : Layout} {action : Action} {dk : DeadKey} {c : Char}

/-! ## States that are spoken of -/

/-- The states that the element speaks of are dead keys of the layout, or none. -/
structure When.Known (layout : Layout) (w : When) : Prop where
  state : w.state = resting ∨ w.state ∈ layout.deadKeys.map (·.name)
  next : ∀ state, w.transition = .next state → state ∈ layout.deadKeys.map (·.name)

theorem mem_names_of_transition {state : Text} (h : transition layout c = .next state) :
    state ∈ layout.deadKeys.map (·.name) := by
  unfold transition at h
  split at h
  · rename_i dk hdk
    obtain rfl := Transition.next.inj h
    exact List.mem_map_of_mem (Layout.mem_of_deadKey? hdk).1
  · cases h

theorem known_actionOf (layout : Layout) (c : Char) :
    ∀ w ∈ (actionOf layout c).whens, w.Known layout := by
  intro w hw
  rcases List.mem_cons.mp hw with rfl | hw
  · exact ⟨Or.inl rfl, fun _ => mem_names_of_transition⟩
  · obtain ⟨dk, hdk, hw⟩ := List.mem_filterMap.mp hw
    obtain ⟨alt, -, rfl⟩ := Option.map_eq_some_iff.mp hw
    exact ⟨Or.inr (List.mem_map_of_mem hdk), fun _ => mem_names_of_transition⟩

theorem known_spaceAction (layout : Layout) (id none : Text) :
    ∀ w ∈ (spaceAction layout id none).whens, w.Known layout := by
  intro w hw
  rcases List.mem_cons.mp hw with rfl | hw
  · exact ⟨Or.inl rfl, fun _ hnext => nomatch hnext⟩
  · obtain ⟨dk, hdk, rfl⟩ := List.mem_map.mp hw
    exact ⟨Or.inr (List.mem_map_of_mem hdk), fun _ hnext => nomatch hnext⟩

theorem mem_spaceActions_iff : action ∈ spaceActions layout ↔
    action = spaceAction layout "space".toList [' ']
      ∨ action = spaceAction layout "nbsp".toList "&#x00a0;".toList := by
  rw [spaceActions, List.mem_pair]

/-- No action speaks of a state that is no dead key. -/
theorem known_of_mem_actions (h : action ∈ actions layout) :
    ∀ w ∈ action.whens, w.Known layout := by
  rcases mem_actions_iff.mp h with hspace | ⟨c, -, rfl⟩
  · rcases mem_spaceActions_iff.mp hspace with rfl | rfl
    · exact known_spaceAction layout _ _
    · exact known_spaceAction layout _ _
  · exact known_actionOf layout c

/-! ## One element for each state -/

theorem sublist_states_compositions (layout : Layout) (c : Char) :
    ((compositions layout c).map (·.state)).Sublist (layout.deadKeys.map (·.name)) := by
  unfold compositions
  induction layout.deadKeys with
  | nil => exact List.Sublist.refl _
  | cons dk rest ih =>
      cases hresult : dk.result? c with
      | none =>
          rw [List.filterMap_cons_none (by rw [hresult]; rfl)]
          exact ih.cons _
      | some alt =>
          rw [List.filterMap_cons_some (by rw [hresult]; rfl)]
          exact ih.cons_cons _

theorem nodup_resting_cons (h : layout.Keyed) {states : List Text}
    (hstates : states.Sublist (layout.deadKeys.map (·.name))) : (resting :: states).Nodup := by
  refine List.nodup_cons.mpr ⟨fun hmem => ?_, h.nodup_names.sublist hstates⟩
  obtain ⟨dk, hdk, hname⟩ := List.mem_map.mp (hstates.subset hmem)
  exact h.name_ne_none dk hdk hname

/-- No action says two things about one state. -/
theorem nodup_states (h : layout.Keyed) (haction : action ∈ actions layout) :
    (action.whens.map (·.state)).Nodup := by
  rcases mem_actions_iff.mp haction with hspace | ⟨c, -, rfl⟩
  · have hstates : ∀ id none, (spaceAction layout id none).whens.map (·.state) =
        resting :: layout.deadKeys.map (·.name) := by
      intro id none
      rw [spaceAction, List.map_cons, List.map_map]
      rfl
    have hnodup := nodup_resting_cons h (List.Sublist.refl _)
    rcases mem_spaceActions_iff.mp hspace with rfl | rfl
    · rwa [hstates]
    · rwa [hstates]
  · exact nodup_resting_cons h (sublist_states_compositions layout c)

/-- An element of an action is the only one for its state. -/
theorem only?_whens (h : layout.Keyed) (haction : action ∈ actions layout) {w : When}
    (hw : w ∈ action.whens) : only? (·.state == w.state) action.whens = some w :=
  only?_eq_some (nodup_states h haction) hw

/-! ## Dead keys in the lines -/

/-- What an action does while no dead key waits is what its first element says. -/
theorem eq_of_mem_resting (h : layout.Keyed) (haction : action ∈ actions layout)
    {first t : Transition} {rest : List When} (hwhens : action.whens = ⟨resting, first⟩ :: rest)
    (ht : ⟨resting, t⟩ ∈ action.whens) : t = first := by
  have hfirst : ⟨resting, first⟩ ∈ action.whens := hwhens ▸ List.mem_cons_self ..
  exact congrArg When.transition
    (List.inj_on_of_nodup_map (nodup_states h haction) ht hfirst rfl)

theorem transition_marker (h : layout.Keyed) (hdk : dk ∈ layout.deadKeys) :
    transition layout dk.marker = .next dk.name := by
  rw [transition, h.deadKey?_marker hdk]

theorem actionId_marker (h : layout.Keyed) (hdk : dk ∈ layout.deadKeys) :
    actionId layout dk.marker = deadKeyId dk := by
  rw [actionId, h.deadKey?_marker hdk]

/-- A character that leads to the state of a dead key is its marker. -/
theorem eq_marker_of_transition (h : layout.Keyed) (hdk : dk ∈ layout.deadKeys)
    (hc : transition layout c = .next dk.name) : c = dk.marker := by
  unfold transition at hc
  split at hc
  · rename_i other hother
    obtain ⟨hin, rfl⟩ := Layout.mem_of_deadKey? hother
    rw [h.eq_of_name hin hdk (Transition.next.inj hc)]
  · cases hc

/-- Only the action of the dead key itself leads to its state. -/
theorem leads_iff (h : layout.Keyed) (hdk : dk ∈ layout.deadKeys)
    (haction : action ∈ actions layout) :
    ⟨resting, .next dk.name⟩ ∈ action.whens ↔ action.id = deadKeyId dk := by
  rw [← actionId_marker h hdk]
  rcases mem_actions_iff.mp haction with hspace | ⟨c, -, rfl⟩
  · -- The space bar leads nowhere, and its ids are no ids of characters.
    obtain ⟨hs, hn⟩ := actionId_not_space layout dk.marker
    rcases mem_spaceActions_iff.mp hspace with rfl | rfl
    · exact iff_of_false (fun hmem => nomatch eq_of_mem_resting h haction rfl hmem) (Ne.symm hs)
    · exact iff_of_false (fun hmem => nomatch eq_of_mem_resting h haction rfl hmem) (Ne.symm hn)
  · constructor
    · intro hmem
      have hc := (eq_of_mem_resting h haction rfl hmem).symm
      exact congrArg (actionId layout) (eq_marker_of_transition h hdk hc)
    · intro hid
      rw [actionId_inj h hid, actionOf, transition_marker h hdk]
      exact List.mem_cons_self ..

/-- Each dead key is found in the emitted lines as an only one: a terminator for its state, an
element for it in both actions of the space bar, and an action that leads to it. -/
structure ClosedOff (layout : Layout) (dk : DeadKey) : Prop where
  drawn : ∃ key level, layout.symbol key level = some dk.marker
  terminator : ∃ line,
    only? (fun line => (readWhen? line).any (·.state == dk.name)) (terminatorLines layout) =
        some line
      ∧ readWhen? line = some ⟨dk.name, .output (Text.xml dk.altSelf)⟩
  space : ∀ id ∈ ["space".toList, "nbsp".toList], ∃ action,
    only? (·.id == id) (readActions (actionLines layout)) = some action
      ∧ only? (·.state == dk.name) action.whens =
        some ⟨dk.name, .output (Text.xml dk.altSpace)⟩
  action : ∃ action,
    only? (·.id == deadKeyId dk) (readActions (actionLines layout)) = some action
      ∧ only? (·.state == resting) action.whens = some ⟨resting, .next dk.name⟩
      ∧ only? (·.whens.contains ⟨resting, .next dk.name⟩) (readActions (actionLines layout)) =
        some action

theorem readWhen?_terminatorLine_of_mem (h : layout.Keyed) (hdk : dk ∈ layout.deadKeys) :
    readWhen? (terminatorLine dk) = some ⟨dk.name, .output (Text.xml dk.altSelf)⟩ :=
  readWhen?_terminatorLine (h.quote_not_mem_name dk hdk) (quote_not_mem_xml dk.altSelf)

theorem only?_congr {α : Type} {p q : α → Bool} {items : List α} (h : ∀ a ∈ items, p a = q a) :
    only? p items = only? q items := by
  rw [only?, only?, List.filter_congr h]

theorem only?_map {α β : Type} (p : β → Bool) (f : α → β) (items : List α) :
    only? p (items.map f) = (only? (p ∘ f) items).map f := by
  unfold only?
  rw [List.filter_map]
  rcases items.filter (p ∘ f) with _ | ⟨item, _ | ⟨other, rest⟩⟩ <;> rfl

theorem only?_terminatorLines (h : layout.Keyed) (hdk : dk ∈ layout.deadKeys) :
    only? (fun line => (readWhen? line).any (·.state == dk.name)) (terminatorLines layout) =
      some (terminatorLine dk) := by
  have hstate : ∀ other ∈ layout.deadKeys,
      (readWhen? (terminatorLine other)).any (·.state == dk.name) = (other.name == dk.name) := by
    intro other hother
    rw [readWhen?_terminatorLine_of_mem h hother, Option.any_some]
  have honly : only? (·.name == dk.name) layout.deadKeys = some dk :=
    only?_eq_some h.nodup_names hdk
  rw [terminatorLines, only?_map]
  exact congrArg (Option.map terminatorLine) ((only?_congr hstate).trans honly)

/-- Both actions of the space bar have one element for the state of a dead key. -/
theorem only?_spaceAction (h : layout.Keyed) (hdk : dk ∈ layout.deadKeys) {id none : Text}
    (haction : spaceAction layout id none ∈ actions layout) :
    only? (·.state == dk.name) (spaceAction layout id none).whens =
      some ⟨dk.name, .output (Text.xml dk.altSpace)⟩ := by
  have hw : ⟨dk.name, .output (Text.xml dk.altSpace)⟩ ∈ (spaceAction layout id none).whens :=
    List.mem_cons_of_mem _ (List.mem_map_of_mem hdk)
  exact only?_whens h haction hw

/-- The dead key of a key has an action. -/
theorem actionOf_marker_mem (h : layout.Keyed) (hdk : dk ∈ layout.deadKeys)
    (hdrawn : ∃ key level, layout.symbol key level = some dk.marker) :
    actionOf layout dk.marker ∈ actions layout := by
  have hdead : layout.isDeadKey dk.marker = true := by
    rw [Layout.isDeadKey, h.deadKey?_marker hdk]
    rfl
  have hacting := (mem_acting_iff h).mpr (Or.inl ⟨hdead, hdrawn⟩)
  exact mem_actions_iff.mpr (Or.inr ⟨_, hacting, rfl⟩)

/-- An action is the only one that is read with its id. -/
theorem only?_id (h : layout.Keyed) (haction : action ∈ actions layout) :
    only? (·.id == action.id) (readActions (actionLines layout)) = some action := by
  rw [readActions_actionLines h, ← actions_machine h]
  exact only?_actions h haction

theorem only?_id_marker (h : layout.Keyed) (hdk : dk ∈ layout.deadKeys)
    (haction : actionOf layout dk.marker ∈ actions layout) :
    only? (·.id == deadKeyId dk) (readActions (actionLines layout)) =
      some (actionOf layout dk.marker) := by
  have hid : (actionOf layout dk.marker).id = deadKeyId dk := actionId_marker h hdk
  have hfound := only?_id h haction
  rwa [hid] at hfound

/-- The action of a dead key leads to its state from rest. -/
theorem only?_resting_marker (h : layout.Keyed) (hdk : dk ∈ layout.deadKeys)
    (haction : actionOf layout dk.marker ∈ actions layout) :
    only? (·.state == resting) (actionOf layout dk.marker).whens =
      some ⟨resting, .next dk.name⟩ := by
  have hw : ⟨resting, .next dk.name⟩ ∈ (actionOf layout dk.marker).whens :=
    (leads_iff h hdk haction).mpr (actionId_marker h hdk)
  exact only?_whens h haction hw

theorem closedOff (h : layout.Keyed) (hdk : dk ∈ layout.deadKeys)
    (hdrawn : ∃ key level, layout.symbol key level = some dk.marker) : ClosedOff layout dk := by
  have haction := actionOf_marker_mem h hdk hdrawn
  have hfound := only?_id_marker h hdk haction
  have hleads : ∀ action ∈ readActions (actionLines layout),
      action.whens.contains ⟨resting, .next dk.name⟩ = (action.id == deadKeyId dk) := by
    intro action hin
    rw [readActions_actionLines h] at hin
    rw [Bool.eq_iff_iff, List.contains_iff_mem, beq_iff_eq, leads_iff h hdk hin]
  constructor
  case drawn => exact hdrawn
  case terminator =>
    exact ⟨_, only?_terminatorLines h hdk, readWhen?_terminatorLine_of_mem h hdk⟩
  case space =>
    have hspace : ∀ {id none}, spaceAction layout id none ∈ spaceActions layout → ∃ action,
        only? (·.id == id) (readActions (actionLines layout)) = some action
          ∧ only? (·.state == dk.name) action.whens =
            some ⟨dk.name, .output (Text.xml dk.altSpace)⟩ := by
      intro id none hin
      have hin := mem_actions_iff.mpr (Or.inl hin)
      have hread := only?_id h hin
      exact ⟨_, hread, only?_spaceAction h hdk hin⟩
    rw [List.forall_mem_cons, List.forall_mem_singleton]
    exact ⟨hspace (mem_spaceActions_iff.mpr (Or.inl rfl)),
      hspace (mem_spaceActions_iff.mpr (Or.inr rfl))⟩
  case action =>
    exact ⟨_, hfound, only?_resting_marker h hdk haction, (only?_congr hleads).trans hfound⟩

/-! ## All lines -/

/-- **A keylayout is closed.** No two of its actions share an id, and the space bar has both of its
own. Every state that an action or a terminator speaks of is a dead key of the layout, or none. Every
dead key of the layout is closed off. -/
theorem states_closed {t : Text} (h : Layout.ofText Registry.builtin t = .ok layout) :
    (((readActions (actionLines layout)).map (·.id)).Nodup
        ∧ "space".toList ∈ (readActions (actionLines layout)).map (·.id)
        ∧ "nbsp".toList ∈ (readActions (actionLines layout)).map (·.id))
      ∧ (∀ action ∈ readActions (actionLines layout), ∀ w ∈ action.whens, w.Known layout)
      ∧ (∀ line ∈ terminatorLines layout, ∃ w, readWhen? line = some w ∧ w.Known layout)
      ∧ ∀ dk ∈ layout.deadKeys, ClosedOff layout dk := by
  obtain ⟨drawn, hdrawn, rfl⟩ := Layout.drawn_of_ofText h
  have hkeyed := hdrawn.keyed_complete
  obtain ⟨name, hboard⟩ := hdrawn.board
  have hkeys := (Registry.drawable_of_builtin hboard).1.nodup_keys
  have hspace : ∀ action ∈ spaceActions drawn.complete,
      action.id ∈ (actions drawn.complete).map (·.id) := fun action haction =>
    List.mem_map_of_mem (mem_actions_iff.mpr (Or.inl haction))
  have hread := readActions_actionLines hkeyed
  refine ⟨?_, ?_, fun line hline => ?_, fun dk hdk => ?_⟩
  · rw [hread]
    exact ⟨nodup_ids hkeyed, hspace _ (mem_spaceActions_iff.mpr (Or.inl rfl)),
      hspace _ (mem_spaceActions_iff.mpr (Or.inr rfl))⟩
  · rw [hread]
    exact fun action haction => known_of_mem_actions haction
  · obtain ⟨dk, hdk, rfl⟩ := List.mem_map.mp hline
    exact ⟨_, readWhen?_terminatorLine_of_mem hkeyed hdk, Or.inr (List.mem_map_of_mem hdk),
      fun _ hnext => nomatch hnext⟩
  · refine closedOff hkeyed hdk ?_
    obtain ⟨known, hknown, rfl⟩ := List.mem_map.mp hdk
    rw [Layout.marker_completeDeadKey]
    exact hdrawn.exists_symbol_of_mem_deadKeys hkeys hknown

/-- The acute accent is only reached through another dead key: no base, shift or AltGr level has
it. -/
theorem states_closed_chained :
    ∃ layout lafayette acute, Layout.ofText Registry.builtin
        (Layout.sketch [(5, 8, 'a'), (5, 10, '\u0301')] [(5, 10, '\u20e1')]) = .ok layout
      ∧ lafayette ∈ layout.deadKeys ∧ lafayette.result? 'a' = some acute.marker
      ∧ acute ∈ layout.deadKeys ∧ acute.marker = '\u0301'
      ∧ ClosedOff layout lafayette ∧ ClosedOff layout acute := by
  obtain ⟨layout, h, hchained⟩ := Layout.exists_of_any_toOption Registry.builtin
    (Layout.sketch [(5, 8, 'a'), (5, 10, '\u0301')] [(5, 10, '\u20e1')])
    (fun layout => layout.deadKeys.any fun lafayette =>
      lafayette.result? 'a' == some '\u0301'
        && layout.deadKeys.any fun acute => acute.marker == '\u0301')
    (by decide +kernel)
  simp only [List.any_eq_true, Bool.and_eq_true, beq_iff_eq] at hchained
  obtain ⟨lafayette, hlafayette, halt, acute, hacute, hmarker⟩ := hchained
  obtain ⟨-, -, -, hclosed⟩ := states_closed h
  exact ⟨layout, lafayette, acute, h, hlafayette, hmarker.symm ▸ halt, hacute, hmarker,
    hclosed lafayette hlafayette, hclosed acute hacute⟩

end Keylayout

end KeyboardLayout
