import KeyboardLayout.Layout.Basic
import KeyboardLayout.Sectioned
import KeyboardLayout.Shift
import KeyboardLayout.Text.Xml

/-!
# macOS keylayouts

A keylayout is a state machine. A key either outputs a text at once or performs an action; an
action says, for each state, what is typed or which state comes next. Every dead key is a state,
and a terminator says what is typed when its state ends without a match.
-/

namespace KeyboardLayout.Keylayout

/-! ## Elements -/

/-- What an action does in one state. -/
inductive Transition
  /-- Goes to a state. -/
  | next (state : Text)
  /-- Types a text and goes back to no state. -/
  | output (text : Text)
  deriving DecidableEq, Repr

def Transition.text : Transition → Text
  | next state => "next=\"".toList ++ state ++ ['"']
  | output text => "output=\"".toList ++ text ++ ['"']

/-- A state as an attribute, filled up to its column. -/
def stateAttribute (state : Text) : Text :=
  Text.padRight 18 ("state=\"".toList ++ state ++ ['"'])

/-- What happens in one state. -/
structure When where
  state : Text
  transition : Transition
  deriving DecidableEq, Repr

def When.text (w : When) : Text :=
  "  <when ".toList ++ stateAttribute w.state ++ [' '] ++ w.transition.text ++ " />".toList

structure Action where
  id : Text
  whens : List When
  deriving DecidableEq, Repr

def Action.lines (action : Action) : List Text :=
  ("<action id=\"".toList ++ action.id ++ "\">".toList) ::
    action.whens.map When.text ++ ["</action>".toList]

/-- What a key does. -/
inductive Response
  | action (id : Text)
  | output (text : Text)
  deriving DecidableEq, Repr

def Response.text : Response → Text
  | action id => "action=\"".toList ++ id ++ ['"']
  | output text => "output=\"".toList ++ text ++ ['"']

def keyElement (code : Nat) (response : Response) : Text :=
  "<key ".toList ++ Text.padRight 10 ("code=\"".toList ++ Text.decimal code ++ ['"']) ++ [' '] ++
    response.text ++ " />".toList

/-! ## Keymaps -/

/-- A keymap shows a level as it is, or the base level with Caps Lock. -/
inductive Keymap
  | plain (level : Level)
  | caps
  deriving DecidableEq, Repr

/-- The keymaps that a keylayout numbers. -/
def Keymap.ofIndex? : Nat → Option Keymap
  | 0 => some (.plain .base)
  | 1 => some (.plain .shift)
  | 2 => some .caps
  | 4 => some (.plain .altGr)
  | 5 => some (.plain .altGrShift)
  | _ => none

def Keymap.level : Keymap → Level
  | plain level => level
  | caps => .base

/-- The output of a key that produces nothing. -/
def noOutput : Text :=
  "&#x0010;".toList

def deadKeyId (dk : DeadKey) : Text :=
  "dead_".toList ++ dk.name

/-- What a key with that character does on a keymap. With Caps Lock the character is replaced by
its full uppercase, and it acts if a single uppercase character would. -/
def respond (layout : Layout) (keymap : Keymap) (c : Char) : Response :=
  match layout.deadKey? c with
  | some dk => .action (deadKeyId dk)
  | none =>
    match keymap with
    | .plain _ =>
      if layout.hasDeadKeys c then .action (Text.xml c) else .output (Text.xml c)
    | .caps =>
      let typed := (Text.upperChar c).flatMap Text.xml
      if (singleUpper? c).any layout.hasDeadKeys then .action typed else .output typed

def response (layout : Layout) (keymap : Keymap) (key : Key) : Response :=
  match layout.symbol key keymap.level with
  | some c => respond layout keymap c
  | none => .output noOutput

def keyLine (layout : Layout) (keymap : Keymap) (key : Key) : Text :=
  keyElement (layout.registry.keyCodes key).mac (response layout keymap key)

def keymapOf (layout : Layout) (keymap : Keymap) : List Text :=
  Sectioned.listing Sectioned.xmlTitle fun key => [keyLine layout keymap key]

/-- The elements of the keymap of that number. -/
def keymapLines (layout : Layout) (index : Nat) : Except LayoutError (List Text) :=
  match Keymap.ofIndex? index with
  | some keymap => .ok (keymapOf layout keymap)
  | none => .error (.unsupportedKeymap index)

/-! ## Actions -/

/-- Where a character leads: to the state of its dead key, or to itself being typed. -/
def transition (layout : Layout) (c : Char) : Transition :=
  match layout.deadKey? c with
  | some dk => .next dk.name
  | none => .output (Text.xml c)

/-- What a character does in the states of the dead keys that it composes with. -/
def compositions (layout : Layout) (c : Char) : List When :=
  layout.deadKeys.filterMap fun dk =>
    (dk.result? c).map fun alt => ⟨dk.name, transition layout alt⟩

def actionId (layout : Layout) (c : Char) : Text :=
  match layout.deadKey? c with
  | some dk => deadKeyId dk
  | none => Text.xml c

def actionOf (layout : Layout) (c : Char) : Action :=
  ⟨actionId layout c, ⟨"none".toList, transition layout c⟩ :: compositions layout c⟩

/-- An action of the space bar: every dead key ends in what it types before a space. -/
def spaceAction (layout : Layout) (id none : Text) : Action :=
  ⟨id, ⟨"none".toList, .output none⟩ ::
    layout.deadKeys.map fun dk => ⟨dk.name, .output (Text.xml dk.altSpace)⟩⟩

def spaceActions (layout : Layout) : List Action :=
  [spaceAction layout "space".toList [' '], spaceAction layout "nbsp".toList "&#x00a0;".toList]

/-- The character needs an action: it is a dead key, or it composes with one. -/
def needsAction (layout : Layout) (c : Char) : Bool :=
  layout.isDeadKey c || !(compositions layout c).isEmpty

/-- The levels on which only dead keys need actions. -/
def deadKeyOnlyLevels : List Level :=
  [.deadKey, .deadKeyShift, .altGr, .altGrShift]

/-- The characters of a key that need actions: the base and the shifted symbol, unless they are
the same, then the dead keys of the other levels. -/
def keyActors (layout : Layout) (key : Key) : List Char :=
  let base := layout.symbol key .base
  let shift := (layout.symbol key .shift).filter fun c => base != some c
  (base.toList ++ shift.toList).filter (needsAction layout) ++
    (deadKeyOnlyLevels.filterMap (layout.symbol key)).filter layout.isDeadKey

/-- The characters whose ids are not among `seen`, each id once, and the ids seen after them. -/
def unseen (layout : Layout) (seen : List Text) : List Char → List Char × List Text
  | [] => ([], seen)
  | c :: rest =>
    let id := actionId layout c
    if seen.contains id then unseen layout seen rest
    else
      let (fresh, seen) := unseen layout (id :: seen) rest
      (c :: fresh, seen)

/-- The characters of each section that get an action there: those of its keys that no earlier key
brought. -/
def sectionActors (layout : Layout) (seen : List Text) :
    List KeySection → List (KeySection × List Char)
  | [] => []
  | group :: rest =>
    let (fresh, seen) := unseen layout seen (group.keys.flatMap (keyActors layout))
    (group, fresh) :: sectionActors layout seen rest

/-- The characters that get an action, by sections. -/
def actors (layout : Layout) : List (KeySection × List Char) :=
  sectionActors layout [] Key.sections

def deadKeyActions (layout : Layout) : List Action :=
  (actors layout).flatMap fun (_, cs) => (cs.filter layout.isDeadKey).map (actionOf layout)

/-- The actions of the characters of a section that compose with a dead key. -/
def charActions (layout : Layout) (cs : List Char) : List Action :=
  (cs.filter fun c => !layout.isDeadKey c).map (actionOf layout)

/-- All actions: those of the dead keys, then those of the space bar, then those of the
characters by sections. -/
def actions (layout : Layout) : List Action :=
  deadKeyActions layout ++ spaceActions layout ++
    (actors layout).flatMap fun (_, cs) => charActions layout cs

def actionLines (layout : Layout) : List Text :=
  (deadKeyActions layout).flatMap Action.lines ++
    [[], Sectioned.xmlTitle "Spacebar".toList] ++
    (spaceActions layout).flatMap Action.lines ++
    (actors layout).flatMap fun (group, cs) =>
      [[], Sectioned.xmlTitle group.title] ++ (charActions layout cs).flatMap Action.lines

/-! ## Terminators -/

/-- The element that ends the state of a dead key. -/
def terminatorLine (dk : DeadKey) : Text :=
  " <when ".toList ++ stateAttribute dk.name ++ " output=\"".toList ++ Text.xml dk.altSelf ++
    "\" />".toList

def terminatorLines (layout : Layout) : List Text :=
  layout.deadKeys.map terminatorLine

end KeyboardLayout.Keylayout
