import KeyboardLayout.Proofs.KeylayoutActions

/-!
# Running a keylayout

The emitted lines, read as a machine, type what the composition tables of the layout say. The
machine knows only the lines: a look-up that does not find exactly one element stops it. The
reference (`Composing`) knows only the layout, and its state is a dead key or none. One stroke of
the machine is one stroke of the reference (`step?_machine`), and so is a whole run
(`run?_machine`).
-/

namespace KeyboardLayout

/-! ## Strokes -/

/-- What the user strikes: the space bar, or a key while a numbered keymap is in force. -/
inductive Stroke
  | space
  | press (index : Nat) (key : Key)
  deriving DecidableEq, Repr

/-- What the layout has for a key on a numbered keymap. -/
def Layout.symbolOn? (layout : Layout) (index : Nat) (key : Key) : Option Char :=
  (Keylayout.Keymap.ofIndex? index).bind fun keymap => layout.symbol key keymap.level

/-- The space bar, any key on the base and the shift keymap, and the dead keys of the AltGr
keymaps. -/
def Stroke.Allowed (layout : Layout) : Stroke → Prop
  | space => True
  | press index key =>
    index = 0 ∨ index = 1
      ∨ (index = 4 ∨ index = 5) ∧ (layout.symbolOn? index key).any layout.isDeadKey = true

/-! ## The reference -/

namespace Composing

/-- What is typed, and the dead key that waits then. -/
abbrev Outcome : Type := Text × Option DeadKey

/-- Types a character outside of all compositions: a dead key waits, any other one is typed. -/
def enter (layout : Layout) (c : Char) : Outcome :=
  match layout.deadKey? c with
  | some dk => ([], some dk)
  | none => (Text.xml c, none)

/-- Types the waiting dead key itself, then goes on as if it had not been there. -/
def giveUp (state : Option DeadKey) (outcome : Outcome) : Outcome :=
  match state with
  | some dk => (Text.xml dk.altSelf ++ outcome.1, outcome.2)
  | none => outcome

/-- Types a character, which the waiting dead key may compose with. -/
def character (layout : Layout) (state : Option DeadKey) (c : Char) : Outcome :=
  match state.bind (·.result? c) with
  | some alt => enter layout alt
  | none => giveUp state (enter layout c)

/-- Types a space, or what the waiting dead key types before one. -/
def spaceBar (state : Option DeadKey) : Outcome :=
  match state with
  | some dk => (Text.xml dk.altSpace, none)
  | none => ([' '], none)

/-- One stroke. A key that produces nothing types a control character. -/
def strike (layout : Layout) (state : Option DeadKey) : Stroke → Outcome
  | .space => spaceBar state
  | .press index key =>
    match layout.symbolOn? index key with
    | some c => character layout state c
    | none => giveUp state (Keylayout.noOutput, none)

/-- Stroke after stroke: all that is typed, and the dead key that waits at the end. -/
def run (layout : Layout) (state : Option DeadKey) : List Stroke → Outcome
  | [] => ([], state)
  | stroke :: rest =>
    let first := strike layout state stroke
    let more := run layout first.2 rest
    (first.1 ++ more.1, more.2)

end Composing

namespace Keylayout

/-! ## The machine -/

/-- The one item that passes, if there is exactly one. -/
def only? {α : Type} (p : α → Bool) (items : List α) : Option α :=
  match items.filter p with
  | [item] => some item
  | _ => none

/-- What the lines of a keylayout say, and the code that each key sends. -/
structure Machine where
  code : Key → Text
  keymaps : Nat → List (Text × Response)
  actions : List Action
  terminators : List When

/-- The machine that the emitted lines describe. -/
def machine (layout : Layout) : Machine where
  code key := Text.decimal (layout.registry.keyCodes key).mac
  keymaps index := (keymapLines layout index).toOption.elim [] readKeys
  actions := readActions (actionLines layout)
  terminators := readWhens (terminatorLines layout)

/-- The state in which no dead key waits. -/
def resting : Text :=
  "none".toList

/-- What a transition types and the state it leads to. -/
def Transition.outcome : Transition → Text × Text
  | next state => ([], state)
  | output text => (text, resting)

namespace Machine

/-- What is typed when a state is left without a match. -/
def terminator? (m : Machine) (state : Text) : Option Text :=
  if state = resting then some []
  else
    match only? (·.state == state) m.terminators with
    | some ⟨_, .output text⟩ => some text
    | _ => none

/-- Performs an action. If it says nothing about the state, that is left by its terminator. -/
def perform? (m : Machine) (action : Action) (state : Text) : Option (Text × Text) :=
  match action.whens.filter (·.state == state) with
  | [w] => some w.transition.outcome
  | [] => do
    let ended ← m.terminator? state
    let w ← only? (·.state == resting) action.whens
    return (ended ++ w.transition.outcome.1, w.transition.outcome.2)
  | _ => none

/-- Responds to a key. -/
def respond? (m : Machine) (state : Text) : Response → Option (Text × Text)
  | .output text => (m.terminator? state).map fun ended => (ended ++ text, resting)
  | .action id => do
    let action ← only? (·.id == id) m.actions
    m.perform? action state

/-- One stroke. -/
def step? (m : Machine) (state : Text) : Stroke → Option (Text × Text)
  | .space => m.respond? state (.action "space".toList)
  | .press index key => do
    let entry ← only? (·.1 == m.code key) (m.keymaps index)
    m.respond? state entry.2

/-- Stroke after stroke: all that is typed, and the state at the end. -/
def run? (m : Machine) (state : Text) : List Stroke → Option (Text × Text)
  | [] => some ([], state)
  | stroke :: rest => do
    let first ← m.step? state stroke
    let more ← m.run? first.2 rest
    return (first.1 ++ more.1, more.2)

end Machine

/-- The state of the machine in which a dead key waits, or none. -/
def stateName : Option DeadKey → Text
  | some dk => dk.name
  | none => resting

/-- An outcome of the reference as one of the machine. -/
def named (outcome : Composing.Outcome) : Text × Text :=
  (outcome.1, stateName outcome.2)

/-! ## Look-ups -/

/-- Where the keys are distinct, the elements of a key are those made for it. -/
theorem filter_filterMap_eq {α β γ : Type} [BEq β] [LawfulBEq β] {items : List α} {f : α → β}
    {g : α → Option γ} {k : γ → β} (hnodup : (items.map f).Nodup)
    (hk : ∀ a c, g a = some c → k c = f a) {a : α} (ha : a ∈ items) :
    (items.filterMap g).filter (k · == f a) = (g a).toList := by
  have hskip : ∀ {rest : List α}, f a ∉ rest.map f →
      (rest.filterMap g).filter (k · == f a) = [] := by
    intro rest hnot
    rw [List.filter_eq_nil_iff]
    intro c hc heq
    obtain ⟨b, hb, hg⟩ := List.mem_filterMap.mp hc
    rw [beq_iff_eq, hk b c hg] at heq
    exact hnot (heq ▸ List.mem_map_of_mem hb)
  induction items with
  | nil => cases ha
  | cons first rest ih =>
      rw [List.map_cons, List.nodup_cons] at hnodup
      rcases List.mem_cons.mp ha with rfl | ha
      · cases hg : g a with
        | none => rw [List.filterMap_cons_none hg, hskip hnodup.1]; rfl
        | some c =>
            rw [List.filterMap_cons_some hg, List.filter_cons_of_pos (by simp [hk a c hg]),
              hskip hnodup.1]
            rfl
      · have hne : f first ≠ f a := fun h => hnodup.1 (h ▸ List.mem_map_of_mem ha)
        cases hg : g first with
        | none => rw [List.filterMap_cons_none hg, ih hnodup.2 ha]
        | some c =>
            rw [List.filterMap_cons_some hg, List.filter_cons_of_neg (by simp [hk first c hg, hne]),
              ih hnodup.2 ha]

/-- Where the keys are distinct, a look-up finds the item. -/
theorem only?_eq_some {α β : Type} [BEq β] [LawfulBEq β] {items : List α} {f : α → β}
    (hnodup : (items.map f).Nodup) {a : α} (ha : a ∈ items) :
    only? (f · == f a) items = some a := by
  have hfilter := filter_filterMap_eq (g := some) (k := f) hnodup
    (fun b c h => congrArg f (Option.some.inj h).symm) ha
  rw [List.filterMap_some] at hfilter
  rw [only?, hfilter]
  rfl

/-! ## What the machine finds -/

variable {layout : Layout} {state : Option DeadKey}

theorem actions_machine (h : layout.Keyed) : (machine layout).actions = actions layout := by
  simp only [machine, readActions_actionLines h]

theorem terminators_machine (h : layout.Keyed) : (machine layout).terminators =
    layout.deadKeys.map fun dk => ⟨dk.name, .output (Text.xml dk.altSelf)⟩ := by
  simp only [machine, readWhens_terminatorLines h]

/-- A key finds its response on a keymap. -/
theorem only?_keymaps (h : layout.Keyed) (hregistry : layout.registry = Registry.builtin)
    {index : Nat} {keymap : Keymap} (hindex : Keymap.ofIndex? index = some keymap) (key : Key) :
    only? (·.1 == (machine layout).code key) ((machine layout).keymaps index) =
      some ((machine layout).code key, response layout keymap key) := by
  have hkeys : (machine layout).keymaps index = Key.all.map fun key =>
      ((machine layout).code key, response layout keymap key) := by
    have hlines : keymapLines layout index = .ok (keymapOf layout keymap) := by
      simp only [keymapLines, hindex]
    simp only [machine, hlines, Except.toOption, Option.elim_some]
    exact readKeys_keymapOf (quote_not_mem_response h keymap)
  have hnodup : (((machine layout).keymaps index).map Prod.fst).Nodup := by
    rw [hkeys, List.map_map, machine, hregistry]
    exact nodup_codes
  have hmem : ((machine layout).code key, response layout keymap key) ∈
      (machine layout).keymaps index :=
    hkeys ▸ List.mem_map_of_mem (Key.mem_all key)
  exact only?_eq_some hnodup hmem

/-- An action is found by its id. -/
theorem only?_actions (h : layout.Keyed) {action : Action} (haction : action ∈ actions layout) :
    only? (·.id == action.id) (machine layout).actions = some action := by
  rw [actions_machine h]
  exact only?_eq_some (nodup_ids h) haction

/-- A waiting dead key ends with its terminator. -/
theorem terminator?_machine (h : layout.Keyed) (hstate : ∀ dk ∈ state, dk ∈ layout.deadKeys) :
    (machine layout).terminator? (stateName state) =
      some (Composing.giveUp state ([], none)).1 := by
  cases state with
  | none => simp [Machine.terminator?, stateName, Composing.giveUp]
  | some dk =>
      have hdk := hstate dk rfl
      have hnodup : ((machine layout).terminators.map (·.state)).Nodup := by
        rw [terminators_machine h, List.map_map]
        exact h.nodup_names
      have hmem : ⟨dk.name, .output (Text.xml dk.altSelf)⟩ ∈ (machine layout).terminators := by
        rw [terminators_machine h]
        exact List.mem_map_of_mem hdk
      have hfind := only?_eq_some hnodup hmem
      have hne : dk.name ≠ resting := h.name_ne_none dk hdk
      simp only [Machine.terminator?, stateName, if_neg hne, hfind, Composing.giveUp,
        List.append_nil]

/-! ## What an action says -/

theorem filter_whens_resting (h : layout.Keyed) {first : When} {g : DeadKey → Option When}
    (hfirst : first.state = resting) (hg : ∀ dk w, g dk = some w → w.state = dk.name) :
    (first :: layout.deadKeys.filterMap g).filter (·.state == resting) = [first] := by
  have hrest : (layout.deadKeys.filterMap g).filter (·.state == resting) = [] := by
    rw [List.filter_eq_nil_iff]
    intro w hw heq
    obtain ⟨dk, hdk, hw⟩ := List.mem_filterMap.mp hw
    rw [beq_iff_eq, hg dk w hw] at heq
    exact h.name_ne_none dk hdk heq
  rw [List.filter_cons_of_pos (by simp [hfirst]), hrest]

theorem filter_whens_dead (h : layout.Keyed) {first : When} {g : DeadKey → Option When}
    (hfirst : first.state = resting) (hg : ∀ dk w, g dk = some w → w.state = dk.name)
    {dk : DeadKey} (hdk : dk ∈ layout.deadKeys) :
    (first :: layout.deadKeys.filterMap g).filter (·.state == dk.name) = (g dk).toList := by
  have hne : first.state ≠ dk.name := fun heq => h.name_ne_none dk hdk (heq ▸ hfirst)
  rw [List.filter_cons_of_neg (by simp [hne]), filter_filterMap_eq h.nodup_names hg hdk]

/-- An action with one element for the resting state and at most one for each dead key types what
they say, or else what the resting state says after the terminator. -/
theorem perform?_machine (h : layout.Keyed) (hstate : ∀ dk ∈ state, dk ∈ layout.deadKeys)
    {action : Action} {first : Transition} {g : DeadKey → Option Transition}
    (haction : action.whens = ⟨resting, first⟩ :: layout.deadKeys.filterMap fun dk =>
      (g dk).map (⟨dk.name, ·⟩)) :
    (machine layout).perform? action (stateName state) =
      some (match state.bind g with
        | some t => t.outcome
        | none => ((Composing.giveUp state ([], none)).1 ++ first.outcome.1, first.outcome.2)) := by
  have hg : ∀ (dk : DeadKey) (w : When), (g dk).map (When.mk dk.name) = some w →
      w.state = dk.name := by
    intro dk w hw
    obtain ⟨t, -, rfl⟩ := Option.map_eq_some_iff.mp hw
    rfl
  have hresting : action.whens.filter (·.state == resting) = [⟨resting, first⟩] := by
    rw [haction]
    exact filter_whens_resting h rfl hg
  cases state with
  | none =>
      rw [Machine.perform?, stateName, hresting]
      simp [Composing.giveUp]
  | some dk =>
      have hdk := hstate dk rfl
      have hfilter : action.whens.filter (·.state == dk.name) =
          ((g dk).map (When.mk dk.name)).toList := by
        rw [haction]
        exact filter_whens_dead h rfl hg hdk
      rw [Machine.perform?, stateName, hfilter]
      cases hdk' : g dk with
      | some t => simp [hdk']
      | none =>
          have hended := terminator?_machine h hstate
          rw [stateName] at hended
          simp [hdk', hended, only?, hresting]

/-! ## One stroke -/

theorem outcome_transition (layout : Layout) (c : Char) :
    (transition layout c).outcome = named (Composing.enter layout c) := by
  unfold transition Composing.enter
  cases layout.deadKey? c <;> rfl

theorem named_giveUp (state : Option DeadKey) (outcome : Composing.Outcome) :
    named (Composing.giveUp state outcome) =
      ((Composing.giveUp state ([], none)).1 ++ outcome.1, stateName outcome.2) := by
  cases state <;> simp [Composing.giveUp, named]

/-- The action of a character composes it with the waiting dead key. -/
theorem perform?_actionOf (h : layout.Keyed) (hstate : ∀ dk ∈ state, dk ∈ layout.deadKeys)
    (c : Char) :
    (machine layout).perform? (actionOf layout c) (stateName state) =
      some (named (Composing.character layout state c)) := by
  have hwhens : (actionOf layout c).whens = ⟨resting, transition layout c⟩ ::
      layout.deadKeys.filterMap fun dk =>
        ((dk.result? c).map (transition layout)).map (⟨dk.name, ·⟩) := by
    simp only [actionOf, compositions, Option.map_map, resting]
    rfl
  rw [perform?_machine h hstate hwhens, Composing.character]
  have hbind : (state.bind fun dk => (dk.result? c).map (transition layout)) =
      (state.bind (·.result? c)).map (transition layout) := by
    cases state <;> rfl
  rw [hbind]
  cases state.bind (·.result? c) with
  | some alt => simp only [Option.map_some, outcome_transition]
  | none =>
      simp only [Option.map_none, outcome_transition, named_giveUp]
      rfl

/-- The space bar ends every composition. -/
theorem perform?_spaceAction (h : layout.Keyed) (hstate : ∀ dk ∈ state, dk ∈ layout.deadKeys) :
    (machine layout).perform? (spaceAction layout "space".toList [' ']) (stateName state) =
      some (named (Composing.spaceBar state)) := by
  have hwhens : (spaceAction layout "space".toList [' ']).whens = ⟨resting, .output [' ']⟩ ::
      layout.deadKeys.filterMap fun dk =>
        (some (Transition.output (Text.xml dk.altSpace))).map (⟨dk.name, ·⟩) := by
    simp only [spaceAction, Option.map_some, List.filterMap_eq_map', resting]
  rw [perform?_machine h hstate hwhens]
  cases state <;> rfl

/-- A key outputs a text after the terminator of the waiting dead key. -/
theorem respond?_output (h : layout.Keyed) (hstate : ∀ dk ∈ state, dk ∈ layout.deadKeys)
    (text : Text) :
    (machine layout).respond? (stateName state) (.output text) =
      some (named (Composing.giveUp state (text, none))) := by
  rw [Machine.respond?, terminator?_machine h hstate, named_giveUp]
  rfl

theorem respond?_action (h : layout.Keyed) (hstate : ∀ dk ∈ state, dk ∈ layout.deadKeys) {c : Char}
    (hc : c ∈ acting layout) :
    (machine layout).respond? (stateName state) (.action (actionId layout c)) =
      some (named (Composing.character layout state c)) := by
  have hfind := only?_actions h (mem_actions_iff.mpr (Or.inr ⟨c, hc, rfl⟩))
  have hid : (actionOf layout c).id = actionId layout c := rfl
  rw [hid] at hfind
  rw [Machine.respond?, hfind]
  exact perform?_actionOf h hstate c

/-- A key that shows a character responds as composing it does, if the character acts when it
has to. -/
theorem respond?_plain (h : layout.Keyed) (hstate : ∀ dk ∈ state, dk ∈ layout.deadKeys)
    {level : Level} {c : Char}
    (hacting : layout.isDeadKey c = true ∨ layout.hasDeadKeys c = true → c ∈ acting layout) :
    (machine layout).respond? (stateName state) (respond layout (.plain level) c) =
      some (named (Composing.character layout state c)) := by
  cases hdead : layout.deadKey? c with
  | some dk =>
      have hid : actionId layout c = deadKeyId dk := by rw [actionId, hdead]
      have hc : layout.isDeadKey c = true := by rw [Layout.isDeadKey, hdead]; rfl
      have hrespond : respond layout (.plain level) c = .action (actionId layout c) := by
        rw [respond, hdead, hid]
      rw [hrespond]
      exact respond?_action h hstate (hacting (Or.inl hc))
  | none =>
      have hid := actionId_of_not_dead (isDeadKey_eq_false_iff.mpr hdead)
      by_cases hcombines : layout.hasDeadKeys c = true
      · have hrespond : respond layout (.plain level) c = .action (actionId layout c) := by
          rw [respond, hdead, hid]
          exact if_pos hcombines
        rw [hrespond]
        exact respond?_action h hstate (hacting (Or.inr hcombines))
      · have hrespond : respond layout (.plain level) c = .output (Text.xml c) := by
          rw [respond, hdead]
          exact if_neg hcombines
        have hresult : state.bind (·.result? c) = none := by
          cases state with
          | none => rfl
          | some dk =>
              cases hr : dk.result? c with
              | none => exact hr
              | some alt =>
                  exact absurd ((hasDeadKeys_iff h).mpr ⟨dk, hstate dk rfl, by rw [hr]; rfl⟩)
                    hcombines
        rw [hrespond, respond?_output h hstate, Composing.character, hresult, Composing.enter,
          hdead]

/-- An allowed key acts when it has to: dead keys do on every level, other characters on the base
and the shift level. -/
theorem mem_acting_of_allowed (h : layout.Keyed) {index : Nat} {key : Key}
    (hallowed : (Stroke.press index key).Allowed layout) {keymap : Keymap}
    (hindex : Keymap.ofIndex? index = some keymap) {c : Char}
    (hc : layout.symbol key keymap.level = some c)
    (hneeds : layout.isDeadKey c = true ∨ layout.hasDeadKeys c = true) : c ∈ acting layout := by
  rw [mem_acting_iff h]
  by_cases hdead : layout.isDeadKey c = true
  · exact Or.inl ⟨hdead, key, _, hc⟩
  · refine Or.inr ⟨hneeds.resolve_left hdead, key, ?_⟩
    rcases hallowed with rfl | rfl | ⟨-, hdead'⟩
    · obtain rfl := Option.some.inj hindex
      exact Or.inl hc
    · obtain rfl := Option.some.inj hindex
      exact Or.inr hc
    · rw [Layout.symbolOn?, hindex, Option.bind_some, hc, Option.any_some] at hdead'
      exact absurd hdead' hdead

/-- An allowed key is read on a keymap that shows a level as it is. -/
theorem exists_plain_of_allowed {index : Nat} {key : Key}
    (hallowed : (Stroke.press index key).Allowed layout) :
    ∃ level, Keymap.ofIndex? index = some (.plain level) := by
  rcases hallowed with rfl | rfl | ⟨rfl | rfl, -⟩
  · exact ⟨.base, rfl⟩
  · exact ⟨.shift, rfl⟩
  · exact ⟨.altGr, rfl⟩
  · exact ⟨.altGrShift, rfl⟩

/-- **One stroke of the machine is one stroke of the reference.** -/
theorem step?_machine (h : layout.Keyed) (hregistry : layout.registry = Registry.builtin)
    (hstate : ∀ dk ∈ state, dk ∈ layout.deadKeys) {stroke : Stroke}
    (hallowed : stroke.Allowed layout) :
    (machine layout).step? (stateName state) stroke =
      some (named (Composing.strike layout state stroke)) := by
  cases stroke with
  | space =>
      have hmem : spaceAction layout "space".toList [' '] ∈ actions layout :=
        mem_actions_iff.mpr (Or.inl (List.mem_cons_self ..))
      have hfind := only?_actions h hmem
      have hid : (spaceAction layout "space".toList [' ']).id = "space".toList := rfl
      rw [hid] at hfind
      rw [Machine.step?, Machine.respond?, hfind]
      exact perform?_spaceAction h hstate
  | press index key =>
      obtain ⟨level, hindex⟩ := exists_plain_of_allowed hallowed
      have hsymbol : layout.symbolOn? index key = layout.symbol key level := by
        rw [Layout.symbolOn?, hindex]
        rfl
      have hstep : (machine layout).step? (stateName state) (.press index key) =
          (machine layout).respond? (stateName state) (response layout (.plain level) key) := by
        rw [Machine.step?, only?_keymaps h hregistry hindex key]
        rfl
      rw [hstep, Composing.strike, hsymbol, response, Keymap.level]
      cases hc : layout.symbol key level with
      | none => exact respond?_output h hstate noOutput
      | some c =>
          exact respond?_plain h hstate (mem_acting_of_allowed h hallowed hindex hc)

/-! ## Runs -/

theorem mem_deadKeys_of_enter {c : Char} {dk : DeadKey}
    (hdk : (Composing.enter layout c).2 = some dk) : dk ∈ layout.deadKeys := by
  unfold Composing.enter at hdk
  split at hdk
  · rename_i other hother
    obtain rfl := Option.some.inj hdk
    exact (Layout.mem_of_deadKey? hother).1
  · cases hdk

/-- The dead key that waits after a stroke is one of the layout. -/
theorem mem_deadKeys_of_strike {stroke : Stroke} :
    ∀ dk ∈ (Composing.strike layout state stroke).2, dk ∈ layout.deadKeys := by
  intro dk hdk
  have hgiveUp : ∀ outcome, (Composing.giveUp state outcome).2 = outcome.2 := by
    cases state <;> exact fun _ => rfl
  cases stroke with
  | space => cases state <;> cases hdk
  | press index key =>
      rw [Composing.strike] at hdk
      split at hdk
      · rw [Composing.character] at hdk
        split at hdk
        · exact mem_deadKeys_of_enter hdk
        · rw [hgiveUp] at hdk
          exact mem_deadKeys_of_enter hdk
      · rw [hgiveUp] at hdk
        cases hdk

/-- A run of the machine from any state of the reference is a run of the reference. -/
theorem run?_eq_named (h : layout.Keyed) (hregistry : layout.registry = Registry.builtin)
    (hstate : ∀ dk ∈ state, dk ∈ layout.deadKeys) {strokes : List Stroke}
    (hallowed : ∀ stroke ∈ strokes, stroke.Allowed layout) :
    (machine layout).run? (stateName state) strokes =
      some (named (Composing.run layout state strokes)) := by
  induction strokes generalizing state with
  | nil => rfl
  | cons stroke rest ih =>
      obtain ⟨hfirst, hrest⟩ := List.forall_mem_cons.mp hallowed
      rw [Machine.run?, step?_machine h hregistry hstate hfirst, Option.bind_eq_bind,
        Option.bind_some, named, ih mem_deadKeys_of_strike hrest]
      rfl

/-- **The emitted lines compose as the layout says.** From the resting state, whatever allowed
strokes follow, the machine that is read from the lines types the same text as the reference and
ends in the state of the dead key that waits there. -/
theorem run?_machine {t : Text} {layout : Layout}
    (h : Layout.ofText Registry.builtin t = .ok layout) {strokes : List Stroke}
    (hallowed : ∀ stroke ∈ strokes, stroke.Allowed layout) :
    (machine layout).run? resting strokes =
      some ((Composing.run layout none strokes).1,
        stateName (Composing.run layout none strokes).2) := by
  obtain ⟨drawn, hdrawn, rfl⟩ := Layout.drawn_of_ofText h
  have hwaiting : ∀ dk ∈ (none : Option DeadKey), dk ∈ drawn.complete.deadKeys := by simp
  exact run?_eq_named hdrawn.keyed_complete hdrawn.registry_eq hwaiting hallowed

/-- An accent that composes, one before a space and one that waits in the end. -/
theorem run?_machine_accents :
    ∃ layout, Layout.ofText Registry.builtin
        (Layout.sketch [(5, 8, 'a')] [(5, 10, '1'), (4, 10, '\u0301')]) = .ok layout
      ∧ (∀ stroke ∈ [Stroke.press 5 .ad01, .press 0 .ad01, .press 5 .ad01, .space,
          .press 0 .ad02, .press 5 .ad01], stroke.Allowed layout)
      ∧ (machine layout).run? resting [.press 5 .ad01, .press 0 .ad01, .press 5 .ad01, .space,
          .press 0 .ad02, .press 5 .ad01] = some ("á´&#x0010;".toList, "acute".toList) := by
  obtain ⟨layout, h, hrun⟩ := Layout.exists_of_any_toOption Registry.builtin
    (Layout.sketch [(5, 8, 'a')] [(5, 10, '1'), (4, 10, '\u0301')])
    (fun layout => (layout.symbolOn? 5 .ad01).any layout.isDeadKey
      && named (Composing.run layout none [.press 5 .ad01, .press 0 .ad01, .press 5 .ad01, .space,
          .press 0 .ad02, .press 5 .ad01]) == ("á´&#x0010;".toList, "acute".toList))
    (by decide +kernel)
  rw [Bool.and_eq_true, beq_iff_eq] at hrun
  obtain ⟨hdead, houtcome⟩ := hrun
  have hallowed : ∀ stroke ∈ [Stroke.press 5 .ad01, .press 0 .ad01, .press 5 .ad01, .space,
      .press 0 .ad02, .press 5 .ad01], stroke.Allowed layout := by
    simp [Stroke.Allowed, hdead]
  refine ⟨layout, h, hallowed, ?_⟩
  rw [run?_machine h hallowed, ← houtcome]
  rfl

end Keylayout

end KeyboardLayout
