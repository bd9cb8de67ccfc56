import KeyboardLayout.Proofs.KeylayoutElements

/-!
# The actions of a keylayout

The walk over the keys collects the characters that need actions, each id once. Flattened, it is
one pass over all keys (`flatMap_actors`), so that every character that was met has an action and
no two actions share an id (`mem_actions_iff`, `nodup_ids`). The emitted lines are read as these
actions (`readActions_actionLines`).
-/

namespace KeyboardLayout.Keylayout

variable {layout : Layout}

/-! ## Ids -/

theorem deadKeyId_eq_cons (dk : DeadKey) : ∃ d rest, deadKeyId dk = 'd' :: d :: rest := by
  refine ⟨'e', 'a' :: 'd' :: '_' :: dk.name, ?_⟩
  unfold deadKeyId
  rw [show "dead_".toList = ['d', 'e', 'a', 'd', '_'] by decide]
  rfl

theorem deadKeyId_ne_xml (dk : DeadKey) (c : Char) : deadKeyId dk ≠ Text.xml c := by
  obtain ⟨d, rest, hdk⟩ := deadKeyId_eq_cons dk
  rw [hdk]
  obtain ⟨-, hc⟩ | ⟨-, e, rest', hc⟩ := xml_cases c <;> rw [hc]
  · simp
  · simp

/-- Different characters have actions of different ids. -/
theorem actionId_inj (h : layout.Keyed) {c d : Char}
    (hid : actionId layout c = actionId layout d) : c = d := by
  unfold actionId at hid
  cases hc : layout.deadKey? c with
  | none =>
      cases hd : layout.deadKey? d with
      | none =>
          rw [hc, hd] at hid
          exact xml_inj hid
      | some dk =>
          rw [hc, hd] at hid
          exact absurd hid.symm (deadKeyId_ne_xml dk c)
  | some dk =>
      cases hd : layout.deadKey? d with
      | none =>
          rw [hc, hd] at hid
          exact absurd hid (deadKeyId_ne_xml dk d)
      | some other =>
          rw [hc, hd] at hid
          obtain ⟨hdk, rfl⟩ := Layout.mem_of_deadKey? hc
          obtain ⟨hother, rfl⟩ := Layout.mem_of_deadKey? hd
          rw [h.eq_of_name hdk hother (List.append_cancel_left hid)]

/-! ## The walk -/

theorem unseen_append (seen : List Text) (cs ds : List Char) :
    unseen layout seen (cs ++ ds) =
      ((unseen layout seen cs).1 ++ (unseen layout (unseen layout seen cs).2 ds).1,
        (unseen layout (unseen layout seen cs).2 ds).2) := by
  induction cs generalizing seen with
  | nil => rfl
  | cons c rest ih =>
      simp only [List.cons_append, unseen]
      split
      · exact ih seen
      · rw [ih]
        rfl

/-- The characters that get an action, in the order in which the walk over the keys meets them. -/
def acting (layout : Layout) : List Char :=
  (unseen layout [] (Key.all.flatMap (keyActors layout))).1

theorem flatMap_sectionActors (seen : List Text) (groups : List KeySection) :
    (sectionActors layout seen groups).flatMap (·.2) =
      (unseen layout seen (groups.flatMap fun group =>
        group.keys.flatMap (keyActors layout))).1 := by
  induction groups generalizing seen with
  | nil => rfl
  | cons group rest ih =>
      rw [List.flatMap_cons, unseen_append]
      simp only [sectionActors, List.flatMap_cons, ih]

/-- The sections leave no trace in what the walk collects. -/
theorem flatMap_actors (layout : Layout) : (actors layout).flatMap (·.2) = acting layout := by
  rw [actors, flatMap_sectionActors, acting, Key.all, List.flatMap_assoc]

theorem mem_sections_of_mem_sectionActors {seen : List Text} {groups : List KeySection}
    {item : KeySection × List Char} (h : item ∈ sectionActors layout seen groups) :
    item.1 ∈ groups := by
  induction groups generalizing seen with
  | nil => cases h
  | cons group rest ih =>
      simp only [sectionActors, List.mem_cons] at h
      rcases h with rfl | h
      · exact List.mem_cons_self ..
      · exact List.mem_cons_of_mem _ (ih h)

theorem unseen_sublist (seen : List Text) (cs : List Char) :
    (unseen layout seen cs).1.Sublist cs := by
  induction cs generalizing seen with
  | nil => exact List.Sublist.refl _
  | cons c rest ih =>
      simp only [unseen]
      split
      · exact (ih seen).cons c
      · exact (ih _).cons_cons c

/-- Every character that is met has its id seen before or is kept. -/
theorem mem_unseen (h : layout.Keyed) {seen : List Text} {cs : List Char} {c : Char}
    (hc : c ∈ cs) : actionId layout c ∈ seen ∨ c ∈ (unseen layout seen cs).1 := by
  induction cs generalizing seen with
  | nil => cases hc
  | cons first rest ih =>
      by_cases hfirst : c = first
      · subst hfirst
        simp only [unseen]
        split
        · rename_i hseen
          exact Or.inl (List.contains_iff_mem.mp hseen)
        · exact Or.inr (List.mem_cons_self ..)
      · have hrest := (List.mem_cons.mp hc).resolve_left hfirst
        simp only [unseen]
        split
        · exact ih hrest
        · rcases ih hrest with hid | hkept
          · rcases List.mem_cons.mp hid with hid | hid
            · exact absurd (actionId_inj h hid) hfirst
            · exact Or.inl hid
          · exact Or.inr (List.mem_cons_of_mem _ hkept)

/-- No id is kept twice. -/
theorem nodup_unseen (seen : List Text) (cs : List Char) :
    ((unseen layout seen cs).1.map (actionId layout)).Nodup
      ∧ ∀ c ∈ (unseen layout seen cs).1, actionId layout c ∉ seen := by
  induction cs generalizing seen with
  | nil => simp [unseen]
  | cons c rest ih =>
      simp only [unseen]
      split
      · exact ih seen
      · rename_i hnew
        obtain ⟨hnodup, hfresh⟩ := ih (actionId layout c :: seen)
        refine ⟨?_, ?_⟩
        · rw [List.map_cons, List.nodup_cons]
          refine ⟨fun hmem => ?_, hnodup⟩
          obtain ⟨d, hd, hid⟩ := List.mem_map.mp hmem
          exact hfresh d hd (hid ▸ List.mem_cons_self ..)
        · intro d hd
          rcases List.mem_cons.mp hd with rfl | hd
          · exact fun hseen => hnew (List.contains_iff_mem.mpr hseen)
          · exact fun hseen => hfresh d hd (List.mem_cons_of_mem _ hseen)

/-! ## The characters that act -/

theorem hasDeadKeys_iff (h : layout.Keyed) {c : Char} :
    layout.hasDeadKeys c = true ↔ ∃ dk ∈ layout.deadKeys, (dk.result? c).isSome = true := by
  simp only [Layout.hasDeadKeys, List.any_eq_true]
  refine exists_congr fun dk => and_congr_right fun hdk => ?_
  exact DeadKey.combinesWith_iff (h.aligned dk hdk)

/-- A character needs an action if it is a dead key or some dead key combines with it. -/
theorem needsAction_iff (h : layout.Keyed) {c : Char} :
    needsAction layout c = true ↔ layout.isDeadKey c = true ∨ layout.hasDeadKeys c = true := by
  rw [hasDeadKeys_iff h, needsAction, Bool.or_eq_true]
  refine or_congr_right ?_
  rw [Bool.not_eq_true', List.isEmpty_eq_false_iff_exists_mem]
  simp only [compositions, List.mem_filterMap, Option.map_eq_some_iff, Option.isSome_iff_exists]
  constructor
  · rintro ⟨w, dk, hdk, d, hd, -⟩
    exact ⟨dk, hdk, d, hd⟩
  · rintro ⟨dk, hdk, d, hd⟩
    exact ⟨_, dk, hdk, d, hd, rfl⟩

theorem mem_keyActors {key : Key} {c : Char} :
    c ∈ keyActors layout key ↔
      (needsAction layout c = true
          ∧ (layout.symbol key .base = some c ∨ layout.symbol key .shift = some c))
        ∨ (layout.isDeadKey c = true
          ∧ ∃ level ∈ deadKeyOnlyLevels, layout.symbol key level = some c) := by
  simp only [keyActors, List.mem_append, List.mem_filter, Option.mem_toList, List.mem_filterMap,
    Option.filter_eq_some_iff, bne_iff_ne]
  grind

/-- A character gets an action if it is a dead key of any level, or needs an action on the base or
the shift level. -/
theorem mem_acting_iff (h : layout.Keyed) {c : Char} :
    c ∈ acting layout ↔
      (layout.isDeadKey c = true ∧ ∃ key level, layout.symbol key level = some c)
        ∨ (layout.hasDeadKeys c = true
          ∧ ∃ key, layout.symbol key .base = some c ∨ layout.symbol key .shift = some c) := by
  have hmet : c ∈ acting layout ↔ ∃ key, c ∈ keyActors layout key := by
    constructor
    · intro hc
      obtain ⟨key, -, hkey⟩ := List.mem_flatMap.mp ((unseen_sublist ..).subset hc)
      exact ⟨key, hkey⟩
    · rintro ⟨key, hkey⟩
      have hc : c ∈ Key.all.flatMap (keyActors layout) :=
        List.mem_flatMap.mpr ⟨key, Key.mem_all key, hkey⟩
      exact (mem_unseen h hc).resolve_left (List.not_mem_nil)
  have hlevel : ∀ level, level = .base ∨ level = .shift ∨ level ∈ deadKeyOnlyLevels := by
    intro level
    cases level <;> decide
  simp only [hmet, mem_keyActors, needsAction_iff h]
  grind

/-! ## All actions -/

theorem actions_eq (layout : Layout) :
    actions layout = ((acting layout).filter layout.isDeadKey).map (actionOf layout) ++
      spaceActions layout ++
        ((acting layout).filter fun c => !layout.isDeadKey c).map (actionOf layout) := by
  have hmap : ∀ p : Char → Bool,
      ((actors layout).flatMap fun item => (item.2.filter p).map (actionOf layout)) =
        ((acting layout).filter p).map (actionOf layout) := by
    intro p
    rw [← flatMap_actors, List.filter_flatMap, List.map_flatMap]
  unfold actions deadKeyActions charActions
  rw [hmap, hmap]

/-- The actions are those of the space bar and of the acting characters. -/
theorem mem_actions_iff {action : Action} :
    action ∈ actions layout ↔
      action ∈ spaceActions layout ∨ ∃ c ∈ acting layout, actionOf layout c = action := by
  simp only [actions_eq, List.mem_append, List.mem_map, List.mem_filter]
  grind

theorem actionId_not_space (layout : Layout) (c : Char) :
    actionId layout c ≠ "space".toList ∧ actionId layout c ≠ "nbsp".toList := by
  rw [show "space".toList = ['s', 'p', 'a', 'c', 'e'] by decide,
    show "nbsp".toList = ['n', 'b', 's', 'p'] by decide]
  unfold actionId
  cases hc : layout.deadKey? c with
  | some dk =>
      obtain ⟨d, rest, hdk⟩ := deadKeyId_eq_cons dk
      simp [hdk]
  | none =>
      obtain ⟨-, hx⟩ | ⟨-, d, rest, hx⟩ := xml_cases c <;> simp [hx]

theorem map_id_actionOf (cs : List Char) :
    (cs.map (actionOf layout)).map (·.id) = cs.map (actionId layout) := by
  rw [List.map_map]
  rfl

/-- No two actions share an id. -/
theorem nodup_ids (h : layout.Keyed) : ((actions layout).map (·.id)).Nodup := by
  have hacting : (acting layout).Nodup :=
    (List.pairwise_map.mp (nodup_unseen [] _).1).imp fun hne heq => hne (congrArg _ heq)
  have hfilter : ∀ p, (((acting layout).filter p).map (actionId layout)).Nodup := fun p =>
    (hacting.filter p).map fun c d hid => actionId_inj h hid
  have hspace : (spaceActions layout).map (·.id) = ["space".toList, "nbsp".toList] := rfl
  have hnotSpace : ∀ c, actionId layout c ∉ (spaceActions layout).map (·.id) := by
    intro c
    obtain ⟨hs, hn⟩ := actionId_not_space layout c
    simp only [hspace, List.mem_cons, List.not_mem_nil, or_false, not_or]
    exact ⟨hs, hn⟩
  rw [actions_eq, List.map_append, List.map_append, map_id_actionOf, map_id_actionOf,
    List.nodup_append, List.nodup_append]
  refine ⟨⟨hfilter _, hspace ▸ (by decide), ?_⟩, hfilter _, ?_⟩
  · rintro a ha b hb rfl
    obtain ⟨c, -, rfl⟩ := List.mem_map.mp ha
    exact hnotSpace c hb
  · rintro a ha b hb rfl
    obtain ⟨d, hd, rfl⟩ := List.mem_map.mp hb
    rcases List.mem_append.mp ha with ha | ha
    · -- A dead key and another character are different characters.
      obtain ⟨c, hc, hid⟩ := List.mem_map.mp ha
      obtain rfl := actionId_inj h hid
      simp [(List.mem_filter.mp hc).2] at hd
    · exact hnotSpace d ha

/-! ## Reading the actions -/

theorem quote_not_mem_transition (h : layout.Keyed) (c : Char) :
    '"' ∉ (transition layout c).value := by
  unfold transition
  cases hc : layout.deadKey? c with
  | none => exact quote_not_mem_xml c
  | some dk => exact h.quote_not_mem_name dk (Layout.mem_of_deadKey? hc).1

theorem quote_not_mem_deadKeyId (h : layout.Keyed) {dk : DeadKey} (hdk : dk ∈ layout.deadKeys) :
    '"' ∉ deadKeyId dk := by
  rw [deadKeyId, List.mem_append, not_or]
  exact ⟨by decide, h.quote_not_mem_name dk hdk⟩

theorem quote_not_mem_actionId (h : layout.Keyed) (c : Char) : '"' ∉ actionId layout c := by
  unfold actionId
  cases hc : layout.deadKey? c with
  | none => exact quote_not_mem_xml c
  | some dk => exact quote_not_mem_deadKeyId h (Layout.mem_of_deadKey? hc).1

theorem quote_not_mem_none : '"' ∉ "none".toList := by decide

theorem quotable_actionOf (h : layout.Keyed) (c : Char) : (actionOf layout c).Quotable := by
  refine ⟨quote_not_mem_actionId h c, fun w hw => ?_⟩
  rcases List.mem_cons.mp hw with rfl | hw
  · exact ⟨quote_not_mem_none, quote_not_mem_transition h c⟩
  · obtain ⟨dk, hdk, hw⟩ := List.mem_filterMap.mp hw
    obtain ⟨d, -, rfl⟩ := Option.map_eq_some_iff.mp hw
    exact ⟨h.quote_not_mem_name dk hdk, quote_not_mem_transition h d⟩

theorem quotable_spaceAction (h : layout.Keyed) {id none : Text} (hid : '"' ∉ id)
    (hnone : '"' ∉ none) : (spaceAction layout id none).Quotable := by
  refine ⟨hid, fun w hw => ?_⟩
  rcases List.mem_cons.mp hw with rfl | hw
  · exact ⟨quote_not_mem_none, hnone⟩
  · obtain ⟨dk, hdk, rfl⟩ := List.mem_map.mp hw
    exact ⟨h.quote_not_mem_name dk hdk, quote_not_mem_xml dk.altSpace⟩

theorem quotable_spaceActions (h : layout.Keyed) : ∀ a ∈ spaceActions layout, a.Quotable := by
  intro a ha
  simp only [spaceActions, List.mem_cons, List.not_mem_nil, or_false] at ha
  rcases ha with rfl | rfl
  · exact quotable_spaceAction h (by decide) (by decide)
  · exact quotable_spaceAction h (by decide) (by decide)

theorem quotable_map_actionOf (h : layout.Keyed) (cs : List Char) :
    ∀ a ∈ cs.map (actionOf layout), a.Quotable := by
  intro a ha
  obtain ⟨c, -, rfl⟩ := List.mem_map.mp ha
  exact quotable_actionOf h c

theorem quotable_deadKeyActions (h : layout.Keyed) : ∀ a ∈ deadKeyActions layout, a.Quotable := by
  intro a ha
  obtain ⟨item, -, ha⟩ := List.mem_flatMap.mp ha
  exact quotable_map_actionOf h _ a ha

/-- The sections after the space bar are read as the actions of their characters. -/
theorem readActions_sections (h : layout.Keyed) {items : List (KeySection × List Char)}
    (hitems : ∀ item ∈ items, item.1 ∈ Key.sections) :
    readActions (items.flatMap fun item =>
        [[], Sectioned.xmlTitle item.1.title] ++
          (charActions layout item.2).flatMap Action.lines) =
      items.flatMap fun item => charActions layout item.2 := by
  induction items with
  | nil => rfl
  | cons item rest ih =>
      obtain ⟨hitem, hrest⟩ := List.forall_mem_cons.mp hitems
      have hchars : ∀ a ∈ charActions layout item.2, a.Quotable := quotable_map_actionOf h _
      rw [List.flatMap_cons, List.flatMap_cons, ← ih hrest, List.append_assoc, List.cons_append,
        List.cons_append, List.nil_append, readActions_skip List.not_mem_nil,
        readActions_skip (quote_not_mem_title _ hitem),
        readActions_flatMap_lines hchars]

/-- The emitted lines are read as the actions. -/
theorem readActions_actionLines (h : layout.Keyed) :
    readActions (actionLines layout) = actions layout := by
  have hsections : ∀ item ∈ actors layout, item.1 ∈ Key.sections :=
    fun item hitem => mem_sections_of_mem_sectionActors hitem
  have htitle : '"' ∉ Sectioned.xmlTitle "Spacebar".toList := by decide
  unfold actionLines actions
  rw [List.append_assoc, List.append_assoc, readActions_flatMap_lines (quotable_deadKeyActions h),
    List.cons_append, List.cons_append, List.nil_append, readActions_skip List.not_mem_nil,
    readActions_skip htitle, readActions_flatMap_lines (quotable_spaceActions h),
    readActions_sections h hsections, List.append_assoc]

/-- The ids that are read are those of the lines that open an action. -/
theorem map_id_readActions (lines : List Text) :
    (readActions lines).map (·.id) = lines.filterMap readActionId? := by
  induction lines with
  | nil => rfl
  | cons line rest ih =>
      simp only [readActions]
      cases hid : readActionId? line with
      | none => rw [List.filterMap_cons_none hid, ← ih]
      | some id => rw [List.filterMap_cons_some hid, ← ih, List.map_cons]

/-- A line that opens an action is emitted exactly if an action has its id. -/
theorem opening_mem_actionLines_iff (h : layout.Keyed) {id : Text} (hid : '"' ∉ id) :
    "<action id=\"".toList ++ id ++ "\">".toList ∈ actionLines layout ↔
      id ∈ (actions layout).map (·.id) := by
  rw [← readActions_actionLines h, map_id_readActions, List.mem_filterMap]
  constructor
  · exact fun hline => ⟨_, hline, readActionId?_opening hid⟩
  · rintro ⟨line, hline, hread⟩
    rwa [← readActionId?_eq_some hread]

/-! ## Actions that keys ask for -/

/-- The character whose action a key with the character asks for: with Caps Lock its uppercase, if
that is one character. -/
def Keymap.acting : Keymap → Char → Char
  | plain _, c => c
  | caps, c => (singleUpper? c).getD c

theorem upperChar_of_singleUpper? {c u : Char} (h : singleUpper? c = some u) :
    Text.upperChar c = [u] := by
  unfold singleUpper? Text.single? at h
  split at h
  · rename_i d heq
    rw [heq, Option.some.inj h]
  · cases h

theorem isDeadKey_eq_false_iff {c : Char} :
    layout.isDeadKey c = false ↔ layout.deadKey? c = none := by
  rw [Layout.isDeadKey, Option.isSome_eq_false_iff, Option.isNone_iff_eq_none]

theorem actionId_of_not_dead {c : Char} (h : layout.isDeadKey c = false) :
    actionId layout c = Text.xml c := by
  unfold actionId
  cases hc : layout.deadKey? c with
  | none => rfl
  | some dk => simp [Layout.isDeadKey, hc] at h

/-- No marker is the uppercase of a character that is no dead key. -/
theorem isDeadKey_of_singleUpper? (h : layout.Keyed) {c u : Char} (hu : singleUpper? c = some u)
    (hdead : layout.isDeadKey c = false) : layout.isDeadKey u = false := by
  rw [Bool.eq_false_iff]
  intro hmarker
  rw [h.eq_of_upper c u hu hmarker, hdead] at hmarker
  cases hmarker

/-- A character that is no dead key asks for the action of the character that acts for it, with
which some dead key combines. -/
theorem respond_eq_action (h : layout.Keyed) {keymap : Keymap} {c : Char}
    (hnone : layout.deadKey? c = none) {id : Text}
    (hr : respond layout keymap c = .action id) :
    layout.isDeadKey (keymap.acting c) = false ∧ layout.hasDeadKeys (keymap.acting c) = true
      ∧ id = actionId layout (keymap.acting c) := by
  have hdead := isDeadKey_eq_false_iff.mpr hnone
  unfold respond at hr
  rw [hnone] at hr
  cases keymap with
  | plain level =>
      by_cases hcombines : layout.hasDeadKeys c = true
      · simp only [if_pos hcombines, Response.action.injEq] at hr
        refine ⟨hdead, hcombines, ?_⟩
        rw [Keymap.acting, actionId_of_not_dead hdead, hr]
      · simp only [if_neg hcombines] at hr
        cases hr
  | caps =>
      cases hu : singleUpper? c with
      | none =>
          simp only [hu, Option.any_none, Bool.false_eq_true, if_false] at hr
          cases hr
      | some u =>
          have hupper := isDeadKey_of_singleUpper? h hu hdead
          have hacting : Keymap.caps.acting c = u := by rw [Keymap.acting, hu, Option.getD_some]
          rw [hacting, actionId_of_not_dead hupper]
          simp only [hu, Option.any_some, upperChar_of_singleUpper? hu,
            List.flatMap_singleton] at hr
          by_cases hcombines : layout.hasDeadKeys u = true
          · rw [if_pos hcombines, Response.action.injEq] at hr
            exact ⟨hupper, hcombines, hr.symm⟩
          · rw [if_neg hcombines] at hr
            cases hr

/-- A key asks for the action of its dead key, or for that of the character that acts for its
symbol. -/
theorem response_eq_action (h : layout.Keyed) {keymap : Keymap} {key : Key} {id : Text}
    (hr : response layout keymap key = .action id) :
    ∃ c, layout.symbol key keymap.level = some c
      ∧ ((layout.isDeadKey c = true ∧ id = actionId layout c)
        ∨ (layout.isDeadKey c = false ∧ layout.isDeadKey (keymap.acting c) = false
          ∧ layout.hasDeadKeys (keymap.acting c) = true
          ∧ id = actionId layout (keymap.acting c))) := by
  unfold response at hr
  cases hc : layout.symbol key keymap.level with
  | none =>
      rw [hc] at hr
      cases hr
  | some c =>
      rw [hc] at hr
      change respond layout keymap c = .action id at hr
      refine ⟨c, rfl, ?_⟩
      cases hdk : layout.deadKey? c with
      | none => exact Or.inr ⟨isDeadKey_eq_false_iff.mpr hdk, respond_eq_action h hdk hr⟩
      | some dk =>
          unfold respond at hr
          rw [hdk] at hr
          obtain rfl := Response.action.inj hr
          refine Or.inl ⟨by rw [Layout.isDeadKey, hdk]; rfl, ?_⟩
          rw [actionId, hdk]

/-- An action is there for every character that acts, and for no other. -/
theorem actionId_mem_iff (h : layout.Keyed) (c : Char) :
    actionId layout c ∈ (actions layout).map (·.id) ↔ c ∈ acting layout := by
  obtain ⟨hs, hn⟩ := actionId_not_space layout c
  constructor
  · intro hid
    obtain ⟨action, haction, hid⟩ := List.mem_map.mp hid
    rcases mem_actions_iff.mp haction with hspace | ⟨d, hd, rfl⟩
    · simp only [spaceActions, List.mem_cons, List.not_mem_nil, or_false] at hspace
      rcases hspace with rfl | rfl
      · exact absurd hid.symm hs
      · exact absurd hid.symm hn
    · exact actionId_inj h hid ▸ hd
  · exact fun hc => List.mem_map_of_mem (mem_actions_iff.mpr (Or.inr ⟨c, hc, rfl⟩))

theorem quote_not_mem_response (h : layout.Keyed) (keymap : Keymap) (key : Key) :
    '"' ∉ (response layout keymap key).value := by
  have hxml := quote_not_mem_xml
  have hupper : ∀ c, '"' ∉ (Text.upperChar c).flatMap Text.xml := fun c hmem => by
    obtain ⟨d, -, hd⟩ := List.mem_flatMap.mp hmem
    exact hxml d hd
  unfold response
  split
  · rename_i c hc
    unfold respond
    split
    · rename_i dk hdk
      exact quote_not_mem_deadKeyId h (Layout.mem_of_deadKey? hdk).1
    · split <;> split <;> first | exact hxml _ | exact hupper _
  · decide

theorem nodup_codes :
    (Key.all.map fun key => Text.decimal (Registry.builtin.keyCodes key).mac).Nodup := by
  decide

/-- No two keys share a code. -/
theorem key_eq_of_code {a b : Key} (h : Text.decimal (Registry.builtin.keyCodes a).mac =
    Text.decimal (Registry.builtin.keyCodes b).mac) : a = b :=
  List.inj_on_of_nodup_map nodup_codes (Key.mem_all a) (Key.mem_all b) h

/-- The action that a key asks for has its lines exactly if the character that it belongs to
acts. -/
theorem opening_mem_iff_of_response (h : layout.Keyed) {keymap : Keymap} {key : Key} {id : Text}
    (hr : response layout keymap key = .action id) :
    "<action id=\"".toList ++ id ++ "\">".toList ∈ actionLines layout ↔
      ∃ c, layout.symbol key keymap.level = some c
        ∧ (layout.isDeadKey c = true ∨ ∃ m, layout.symbol m .base = some (keymap.acting c)
          ∨ layout.symbol m .shift = some (keymap.acting c)) := by
  have hquote : '"' ∉ id := by
    have := quote_not_mem_response h keymap key
    rwa [hr] at this
  rw [opening_mem_actionLines_iff h hquote]
  obtain ⟨c, hc, ⟨hdead, rfl⟩ | ⟨hdead, hacting, hcombines, rfl⟩⟩ := response_eq_action h hr
  · rw [actionId_mem_iff h, mem_acting_iff h]
    exact ⟨fun _ => ⟨c, hc, Or.inl hdead⟩, fun _ => Or.inl ⟨hdead, key, _, hc⟩⟩
  · rw [actionId_mem_iff h, mem_acting_iff h]
    simp only [hacting, hcombines, hc, Option.some.injEq, exists_eq_left', hdead,
      Bool.false_eq_true, false_and, false_or, true_and]

/-- **The action that a key asks for is emitted exactly if the key is a dead key or some key types
the acting character on the base or the shift level.** On the base and the shift keymap that is the
key itself; the walk over the keys leaves out characters that only the AltGr levels have, and
capitals that no key has. -/
theorem opening_emitted_iff {t : Text} (h : Layout.ofText Registry.builtin t = .ok layout)
    {index : Nat} {keymap : Keymap} (hindex : Keymap.ofIndex? index = some keymap)
    {lines : List Text} (hlines : keymapLines layout index = .ok lines) {key : Key} {id : Text}
    (hkey : keyElement (layout.registry.keyCodes key).mac (.action id) ∈ lines) :
    "<action id=\"".toList ++ id ++ "\">".toList ∈ actionLines layout ↔
      ∃ c, layout.symbol key keymap.level = some c
        ∧ (layout.isDeadKey c = true ∨ ∃ m, layout.symbol m .base = some (keymap.acting c)
          ∨ layout.symbol m .shift = some (keymap.acting c)) := by
  obtain ⟨drawn, hdrawn, rfl⟩ := Layout.drawn_of_ofText h
  rw [keymapLines, hindex] at hlines
  obtain rfl := Except.ok.inj hlines
  obtain ⟨other, hcode, hresponse⟩ := exists_key_of_mem_keymapOf hkey
  rw [Layout.registry_complete, hdrawn.registry_eq] at hcode
  obtain rfl := key_eq_of_code hcode
  exact opening_mem_iff_of_response hdrawn.keyed_complete hresponse.symm

theorem keyElement_mem_of_response {keymap : Keymap} {key : Key} {r : Response}
    (h : response layout keymap key = r) :
    keyElement (layout.registry.keyCodes key).mac r ∈ keymapOf layout keymap :=
  h ▸ keyLine_mem_keymapOf layout keymap key

/-- A letter on the base level that the acute accent combines with. -/
theorem opening_emitted_letter :
    ∃ layout, Layout.ofText Registry.builtin
        (Layout.sketch [(5, 8, 'a')] [(4, 10, '\u0301')]) = .ok layout
      ∧ keyElement (layout.registry.keyCodes .ad01).mac (.action ['a'])
          ∈ keymapOf layout (.plain .base)
      ∧ "<action id=\"".toList ++ ['a'] ++ "\">".toList ∈ actionLines layout := by
  obtain ⟨layout, h, hr⟩ := Layout.exists_of_any_toOption Registry.builtin
    (Layout.sketch [(5, 8, 'a')] [(4, 10, '\u0301')])
    (fun layout => response layout (.plain .base) .ad01 == .action ['a']
      && layout.symbol .ad01 .base == some 'a')
    (by decide +kernel)
  simp only [Bool.and_eq_true, beq_iff_eq] at hr
  have hkey := keyElement_mem_of_response hr.1
  have hindex : Keymap.ofIndex? 0 = some (.plain .base) := rfl
  refine ⟨layout, h, hkey, ?_⟩
  exact (opening_emitted_iff h hindex rfl hkey).mpr
    ⟨'a', hr.2, Or.inr ⟨.ad01, Or.inl hr.2⟩⟩

/-- A letter that only the AltGr level has asks for an action that is not there. -/
theorem opening_not_emitted_altGr :
    ∃ layout lines, Layout.ofText Registry.builtin
        (Layout.sketch [] [(4, 10, '\u0301'), (5, 10, '1'), (5, 16, 'a')]) = .ok layout
      ∧ keymapLines layout 4 = .ok lines
      ∧ keyElement (layout.registry.keyCodes .ad02).mac (.action ['a']) ∈ lines
      ∧ "<action id=\"".toList ++ ['a'] ++ "\">".toList ∉ actionLines layout := by
  obtain ⟨layout, h, hr⟩ := Layout.exists_of_any_toOption Registry.builtin
    (Layout.sketch [] [(4, 10, '\u0301'), (5, 10, '1'), (5, 16, 'a')])
    (fun layout => response layout (.plain .altGr) .ad02 == .action ['a']
      && layout.symbol .ad02 .altGr == some 'a' && !layout.isDeadKey 'a'
      && Key.all.all fun m => layout.symbol m .base != some 'a'
        && layout.symbol m .shift != some 'a')
    (by decide +kernel)
  simp only [Bool.and_eq_true, beq_iff_eq, Bool.not_eq_true', List.all_eq_true, bne_iff_ne] at hr
  obtain ⟨⟨⟨hr, hc⟩, hdead⟩, hnone⟩ := hr
  obtain ⟨drawn, hdrawn, rfl⟩ := Layout.drawn_of_ofText h
  refine ⟨_, _, h, rfl, keyElement_mem_of_response hr, ?_⟩
  rw [opening_mem_iff_of_response hdrawn.keyed_complete hr]
  rintro ⟨c, hsymbol, hor⟩
  obtain rfl : 'a' = c := Option.some.inj (hc.symm.trans hsymbol)
  rcases hor with htrue | ⟨m, hbase | hshift⟩
  · rw [hdead] at htrue
    cases htrue
  · exact (hnone m (Key.mem_all m)).1 hbase
  · exact (hnone m (Key.mem_all m)).2 hshift

end KeyboardLayout.Keylayout
