import KeyboardLayout.Keylayout
import KeyboardLayout.Proofs.DeadKeys
import KeyboardLayout.Proofs.Listings

/-!
# Reading keylayout elements

The emitted lines are read back by their quotation marks, which surround attribute values and
occur nowhere else. `readKeys`, `readActions` and `readWhens` know of the layout nothing but these
lines; what they read is what the lines were made of (`readKeys_keymapOf`, `readActions_lines`,
`readWhens_terminatorLines`), as long as no value holds a quotation mark.
-/

namespace KeyboardLayout.Keylayout

/-! ## Readers -/

/-- The text without the spaces it starts with. -/
def unindented (t : Text) : Text :=
  t.dropWhile (· == ' ')

/-- What a key does, from the name and the value of an attribute. -/
def readResponse? (name value : Text) : Option Response :=
  if name = "action=".toList then some (.action value)
  else if name = "output=".toList then some (.output value)
  else none

/-- What happens in a state, from the name and the value of an attribute. -/
def readTransition? (name value : Text) : Option Transition :=
  if name = "next=".toList then some (.next value)
  else if name = "output=".toList then some (.output value)
  else none

/-- The values of the two attributes of an element and the name of the second one, if the element
starts like that. -/
def twoAttributes? (start line : Text) : Option (Text × Text × Text) :=
  match line.splitOn '"' with
  | [lead, first, name, second, _] =>
    if unindented lead = start then some (first, unindented name, second) else none
  | _ => none

/-- The code and the response of a key element. -/
def readKey? (line : Text) : Option (Text × Response) :=
  (twoAttributes? "<key code=".toList line).bind fun (code, name, value) =>
    (readResponse? name value).map (code, ·)

/-- What a state element says. -/
def readWhen? (line : Text) : Option When :=
  (twoAttributes? "<when state=".toList line).bind fun (state, name, value) =>
    (readTransition? name value).map (⟨state, ·⟩)

/-- The id of the action that a line opens. -/
def readActionId? (line : Text) : Option Text :=
  match line.splitOn '"' with
  | [lead, id, rest] => if lead = "<action id=".toList ∧ rest = ['>'] then some id else none
  | _ => none

/-- The line that closes an action. -/
def closing : Text :=
  "</action>".toList

/-- The key elements among the lines. -/
def readKeys (lines : List Text) : List (Text × Response) :=
  lines.filterMap readKey?

/-- The state elements among the lines. -/
def readWhens (lines : List Text) : List When :=
  lines.filterMap readWhen?

/-- The actions among the lines, each with the state elements up to its closing line. -/
def readActions : List Text → List Action
  | [] => []
  | line :: rest =>
    match readActionId? line with
    | some id => ⟨id, readWhens (rest.takeWhile (· != closing))⟩ :: readActions rest
    | none => readActions rest

/-! ## Values -/

def Transition.attributeName : Transition → Text
  | next _ => "next=".toList
  | output _ => "output=".toList

def Transition.value : Transition → Text
  | next state => state
  | output text => text

def Response.attributeName : Response → Text
  | action _ => "action=".toList
  | output _ => "output=".toList

def Response.value : Response → Text
  | action id => id
  | output text => text

/-- Neither of the values holds a quotation mark. -/
def When.Quotable (w : When) : Prop :=
  '"' ∉ w.state ∧ '"' ∉ w.transition.value

/-- None of the values holds a quotation mark. -/
def Action.Quotable (action : Action) : Prop :=
  '"' ∉ action.id ∧ ∀ w ∈ action.whens, w.Quotable

/-! ## Single elements -/

theorem splitOn_quote_cons {lead rest : Text} (h : '"' ∉ lead) :
    (lead ++ '"' :: rest).splitOn '"' = lead :: rest.splitOn '"' :=
  List.splitOn_append_cons_self_of_not_mem h rest

theorem unindented_append {spaces t : Text} (hspaces : ∀ c ∈ spaces, c = ' ')
    (ht : t.head? ≠ some ' ') : unindented (spaces ++ t) = t := by
  unfold unindented
  rw [List.dropWhile_append_of_pos (by simpa using hspaces)]
  cases t with
  | nil => rfl
  | cons c rest =>
      have hc : c ≠ ' ' := by simpa using ht
      simp [hc]

/-- An attribute that is filled up to a column, after the start of its element. -/
theorem filled_eq {opening named lead : Text} (hopening : opening ++ named = lead ++ ['"'])
    (width : Nat) (first rest : Text) :
    opening ++ Text.padRight width (named ++ first ++ ['"']) ++ rest =
      lead ++ '"' :: (first ++ '"' ::
        (List.replicate (width - (named ++ first ++ ['"']).length) ' ' ++ rest)) := by
  have hquote : ∀ rest, opening ++ (named ++ rest) = lead ++ '"' :: rest := fun rest => by
    rw [← List.append_assoc, hopening, List.append_assoc]
    rfl
  unfold Text.padRight List.rightpad
  simp only [List.append_assoc, List.cons_append, List.nil_append, hquote]

/-- An element with two attributes, the first of them filled up to a column, is cut at its
quotation marks into the values and what stands around them. -/
theorem splitOn_element {opening named lead name first second : Text} (width : Nat)
    (hopening : opening ++ named = lead ++ ['"']) (hlead : '"' ∉ lead) (hname : '"' ∉ name)
    (hfirst : '"' ∉ first) (hsecond : '"' ∉ second) :
    ∃ spaces : Text, (∀ c ∈ spaces, c = ' ')
      ∧ (opening ++ Text.padRight width (named ++ first ++ ['"']) ++ [' '] ++
          (name ++ '"' :: (second ++ ['"'])) ++ " />".toList).splitOn '"' =
        [lead, first, spaces ++ name, second, " />".toList] := by
  generalize hn : width - (named ++ first ++ ['"']).length = n
  have hspaces : ∀ c ∈ List.replicate n ' ' ++ [' '], c = ' ' := by
    intro c hc
    rcases List.mem_append.mp hc with hc | hc
    · exact List.eq_of_mem_replicate hc
    · exact List.mem_singleton.mp hc
  have hmiddle : '"' ∉ List.replicate n ' ' ++ [' '] ++ name := by
    rw [List.mem_append, not_or]
    exact ⟨fun h => absurd (hspaces _ h) (by decide), hname⟩
  have htext : opening ++ Text.padRight width (named ++ first ++ ['"']) ++ [' '] ++
        (name ++ '"' :: (second ++ ['"'])) ++ " />".toList =
      lead ++ '"' :: (first ++ '"' :: (List.replicate n ' ' ++ [' '] ++ name ++ '"' ::
        (second ++ '"' :: " />".toList))) := by
    rw [List.append_assoc, List.append_assoc, filled_eq hopening, hn]
    simp only [List.append_assoc, List.cons_append, List.nil_append]
  refine ⟨_, hspaces, ?_⟩
  rw [htext, splitOn_quote_cons hlead, splitOn_quote_cons hfirst, splitOn_quote_cons hmiddle,
    splitOn_quote_cons hsecond, List.splitOn_eq_singleton (by decide)]

/-- Such an element is read as its values. -/
theorem twoAttributes?_element {start opening named lead name first second : Text} (width : Nat)
    (hopening : opening ++ named = lead ++ ['"']) (hlead : '"' ∉ lead)
    (hstart : unindented lead = start) (hname : '"' ∉ name) (hblank : name.head? ≠ some ' ')
    (hfirst : '"' ∉ first) (hsecond : '"' ∉ second) :
    twoAttributes? start (opening ++ Text.padRight width (named ++ first ++ ['"']) ++ [' '] ++
        (name ++ '"' :: (second ++ ['"'])) ++ " />".toList) = some (first, name, second) := by
  obtain ⟨spaces, hspaces, hsplit⟩ :=
    splitOn_element width hopening hlead hname hfirst hsecond
  unfold twoAttributes?
  rw [hsplit]
  simp only [hstart, unindented_append hspaces hblank, if_pos]

/-- A line without quotation marks is no element with attributes. -/
theorem twoAttributes?_of_not_mem {line : Text} (h : '"' ∉ line) (start : Text) :
    twoAttributes? start line = none := by
  unfold twoAttributes?
  rw [List.splitOn_eq_singleton h]

/-- An attribute is its name, followed by its value in quotation marks. -/
theorem quoted_eq {opened name : Text} (h : opened = name ++ ['"']) (value : Text) :
    opened ++ value ++ ['"'] = name ++ '"' :: (value ++ ['"']) := by
  rw [h]
  simp

theorem Transition.text_eq (t : Transition) :
    t.text = t.attributeName ++ '"' :: (t.value ++ ['"']) := by
  have hnext : "next=\"".toList = "next=".toList ++ ['"'] := by decide
  have houtput : "output=\"".toList = "output=".toList ++ ['"'] := by decide
  cases t with
  | next state => exact quoted_eq hnext state
  | output text => exact quoted_eq houtput text

theorem Response.text_eq (r : Response) :
    r.text = r.attributeName ++ '"' :: (r.value ++ ['"']) := by
  have haction : "action=\"".toList = "action=".toList ++ ['"'] := by decide
  have houtput : "output=\"".toList = "output=".toList ++ ['"'] := by decide
  cases r with
  | action id => exact quoted_eq haction id
  | output text => exact quoted_eq houtput text

theorem Transition.read_attributeName (t : Transition) :
    readTransition? t.attributeName t.value = some t := by
  cases t <;> rfl

theorem Response.read_attributeName (r : Response) :
    readResponse? r.attributeName r.value = some r := by
  cases r <;> rfl

theorem Transition.attributeName_spec (t : Transition) :
    '"' ∉ t.attributeName ∧ t.attributeName.head? ≠ some ' ' := by
  have hnext : '"' ∉ "next=".toList ∧ "next=".toList.head? ≠ some ' ' := by decide
  have houtput : '"' ∉ "output=".toList ∧ "output=".toList.head? ≠ some ' ' := by decide
  cases t with
  | next state => exact hnext
  | output text => exact houtput

theorem Response.attributeName_spec (r : Response) :
    '"' ∉ r.attributeName ∧ r.attributeName.head? ≠ some ' ' := by
  have haction : '"' ∉ "action=".toList ∧ "action=".toList.head? ≠ some ' ' := by decide
  have houtput : '"' ∉ "output=".toList ∧ "output=".toList.head? ≠ some ' ' := by decide
  cases r with
  | action id => exact haction
  | output text => exact houtput

theorem When.opening_eq :
    "  <when ".toList ++ "state=\"".toList = "  <when state=".toList ++ ['"'] := by
  decide

/-- A state element is read as what it says. -/
theorem readWhen?_text {w : When} (h : w.Quotable) : readWhen? w.text = some w := by
  obtain ⟨hname, hblank⟩ := w.transition.attributeName_spec
  unfold readWhen? When.text stateAttribute
  rw [Transition.text_eq, twoAttributes?_element 18 When.opening_eq (by decide) (by decide) hname
    hblank h.1 h.2, Option.bind_some]
  simp only [Transition.read_attributeName, Option.map_some]

/-- A state element opens no action. -/
theorem readActionId?_text {w : When} (h : w.Quotable) : readActionId? w.text = none := by
  obtain ⟨spaces, -, hsplit⟩ := splitOn_element 18 When.opening_eq (by decide)
    w.transition.attributeName_spec.1 h.1 h.2
  unfold readActionId? When.text stateAttribute
  rw [Transition.text_eq, hsplit]

theorem readActionId?_of_not_mem {line : Text} (h : '"' ∉ line) : readActionId? line = none := by
  unfold readActionId?
  rw [List.splitOn_eq_singleton h]

theorem opening_eq (id : Text) : "<action id=\"".toList ++ id ++ "\">".toList =
    "<action id=".toList ++ '"' :: (id ++ '"' :: ['>']) := by
  have hopening : "<action id=\"".toList = "<action id=".toList ++ ['"'] := by decide
  have hend : "\">".toList = ['"'] ++ ['>'] := by decide
  rw [hopening, hend]
  simp only [List.append_assoc, List.cons_append, List.nil_append]

/-- Only the first line of an action opens it. -/
theorem readActionId?_eq_some {line id : Text} (h : readActionId? line = some id) :
    line = "<action id=\"".toList ++ id ++ "\">".toList := by
  unfold readActionId? at h
  split at h
  · rename_i lead found rest hsplit
    split at h
    · rename_i heq
      obtain ⟨rfl, rfl⟩ := heq
      obtain rfl := Option.some.inj h
      have hline : ['"'].intercalate (line.splitOn '"') = line := List.intercalate_splitOn '"'
      rw [opening_eq, ← hline, hsplit]
      simp [List.intercalate]
    · cases h
  · cases h

/-- The first line of an action opens it. -/
theorem readActionId?_opening {id : Text} (h : '"' ∉ id) :
    readActionId? ("<action id=\"".toList ++ id ++ "\">".toList) = some id := by
  unfold readActionId?
  rw [opening_eq, splitOn_quote_cons (by decide), splitOn_quote_cons h,
    List.splitOn_eq_singleton (by decide)]
  simp only [and_self, if_true]

theorem Response.text_inj {r r' : Response} (h : r.text = r'.text) : r = r' := by
  have haction : "action=\"".toList = 'a' :: "ction=\"".toList := by decide
  have houtput : "output=\"".toList = 'o' :: "utput=\"".toList := by decide
  cases r <;> cases r' <;> unfold Response.text at h
  · exact congrArg action (List.append_cancel_left (List.append_cancel_right h))
  · rw [haction, houtput] at h
    cases h
  · rw [haction, houtput] at h
    cases h
  · exact congrArg output (List.append_cancel_left (List.append_cancel_right h))

theorem key_opening_eq : "<key ".toList ++ "code=\"".toList = "<key code=".toList ++ ['"'] := by
  decide

theorem quote_not_mem_decimal (n : Nat) : '"' ∉ Text.decimal n := fun h =>
  absurd (Nat.isDigit_of_mem_toDigits (by decide) (by decide) h) (by decide)

/-- A key element is read as its code and its response. -/
theorem readKey?_keyElement (code : Nat) {r : Response} (h : '"' ∉ r.value) :
    readKey? (keyElement code r) = some (Text.decimal code, r) := by
  obtain ⟨hname, hblank⟩ := r.attributeName_spec
  unfold readKey? keyElement
  rw [Response.text_eq,
    twoAttributes?_element 10 key_opening_eq (by decide) (by decide) hname hblank
    (quote_not_mem_decimal code) h, Option.bind_some]
  simp only [Response.read_attributeName, Option.map_some]

/-- A key element determines its code and its response. -/
theorem keyElement_inj {n m : Nat} {r r' : Response} (h : keyElement n r = keyElement m r') :
    Text.decimal n = Text.decimal m ∧ r = r' := by
  have htext : ∀ n r, keyElement n r = "<key code=".toList ++ '"' :: (Text.decimal n ++ '"' ::
      (List.replicate (10 - ("code=\"".toList ++ Text.decimal n ++ ['"']).length) ' ' ++
        ([' '] ++ r.text ++ " />".toList))) := fun n r => by
    unfold keyElement
    rw [List.append_assoc, List.append_assoc, filled_eq key_opening_eq]
    simp only [List.append_assoc]
  rw [htext, htext] at h
  have hvalue := (List.cons.inj (List.append_cancel_left h)).2
  have hcode : Text.decimal n = Text.decimal m := by
    have hsplit := congrArg (List.splitOn '"') hvalue
    rw [splitOn_quote_cons (quote_not_mem_decimal n),
      splitOn_quote_cons (quote_not_mem_decimal m)] at hsplit
    exact (List.cons.inj hsplit).1
  rw [hcode] at hvalue
  refine ⟨hcode, Response.text_inj ?_⟩
  have hbody := List.append_cancel_left (List.cons.inj (List.append_cancel_left hvalue)).2
  exact List.append_cancel_left (List.append_cancel_right hbody)

/-- A terminator is a state element. -/
theorem readWhen?_terminatorLine {dk : DeadKey} (hname : '"' ∉ dk.name)
    (hself : '"' ∉ Text.xml dk.altSelf) :
    readWhen? (terminatorLine dk) = some ⟨dk.name, .output (Text.xml dk.altSelf)⟩ := by
  have hopening : " <when ".toList ++ "state=\"".toList = " <when state=".toList ++ ['"'] := by
    decide
  have houtput : " output=\"".toList = [' '] ++ ("output=".toList ++ ['"']) := by decide
  have hend : "\" />".toList = ['"'] ++ " />".toList := by decide
  have htext : terminatorLine dk = " <when ".toList ++
      Text.padRight 18 ("state=\"".toList ++ dk.name ++ ['"']) ++ [' '] ++
        ("output=".toList ++ '"' :: (Text.xml dk.altSelf ++ ['"'])) ++ " />".toList := by
    unfold terminatorLine stateAttribute
    rw [houtput, hend]
    simp only [List.append_assoc, List.cons_append, List.nil_append]
  unfold readWhen?
  rw [htext, twoAttributes?_element 18 hopening (by decide) (by decide) (by decide) (by decide)
    hname hself]
  rfl

/-! ## Characters as values -/

/-- A character stands as itself or as a numeric reference. -/
theorem xml_cases (c : Char) :
    (c ∉ Text.xmlSpecial ∧ Text.xml c = [c])
      ∨ (c ∈ Text.xmlSpecial ∧ ∃ d rest, Text.xml c = '&' :: d :: rest) := by
  by_cases h : c ∈ Text.xmlSpecial
  · refine Or.inr ⟨h, '#', 'x' :: (Text.hex c ++ [';']), ?_⟩
    unfold Text.xml
    rw [if_pos h, show "&#x".toList = ['&', '#', 'x'] by decide]
    rfl
  · exact Or.inl ⟨h, if_neg h⟩

theorem quote_not_mem_xml (c : Char) : '"' ∉ Text.xml c := by
  have hspecial : '"' ∉ Text.xmlSpecial.flatMap Text.xml := by decide
  obtain ⟨hc, heq⟩ | ⟨hc, -⟩ := xml_cases c
  · rw [heq, List.mem_singleton]
    rintro rfl
    exact hc (by decide)
  · exact fun h => hspecial (List.mem_flatMap.mpr ⟨c, hc, h⟩)

/-- Different characters are written differently. -/
theorem xml_inj {c d : Char} (h : Text.xml c = Text.xml d) : c = d := by
  have hspecial : (Text.xmlSpecial.map Text.xml).Nodup := by decide
  obtain ⟨-, hc⟩ | ⟨hc, c', rest, hc'⟩ := xml_cases c <;>
    obtain ⟨-, hd⟩ | ⟨hd, d', rest', hd'⟩ := xml_cases d
  · rw [hc, hd] at h
    exact (List.cons.inj h).1
  · rw [hc, hd'] at h
    cases h
  · rw [hc', hd] at h
    cases h
  · exact List.inj_on_of_nodup_map hspecial hc hd h

/-! ## Lists of elements -/

variable {layout : Layout}

theorem quote_not_mem_title : ∀ group ∈ Key.sections, '"' ∉ Sectioned.xmlTitle group.title := by
  decide

/-- The elements of a keymap are read as the responses of all keys. -/
theorem readKeys_keymapOf {keymap : Keymap}
    (h : ∀ key, '"' ∉ (response layout keymap key).value) :
    readKeys (keymapOf layout keymap) = Key.all.map fun key =>
      (Text.decimal (layout.registry.keyCodes key).mac, response layout keymap key) := by
  have hsection : ∀ group ∈ Key.sections,
      (Sectioned.block Sectioned.xmlTitle (fun key => [keyLine layout keymap key]) group).filterMap
          readKey? =
        group.keys.map fun key =>
          (Text.decimal (layout.registry.keyCodes key).mac, response layout keymap key) := by
    intro group hgroup
    have htitle : readKey? (Sectioned.xmlTitle group.title) = none := by
      unfold readKey?
      rw [twoAttributes?_of_not_mem (quote_not_mem_title group hgroup), Option.bind_none]
    rw [Sectioned.block, List.filterMap_cons_none htitle, List.filterMap_flatMap]
    simp only [keyLine, List.filterMap_cons_some (readKey?_keyElement _ (h _)), List.filterMap_nil]
    exact List.map_eq_flatMap.symm
  unfold readKeys keymapOf Sectioned.listing
  rw [Sectioned.filterMap_blocks rfl, List.flatMap_map, Key.all, List.map_flatMap]
  exact List.flatMap_congr hsection

theorem quote_mem_keyElement (n : Nat) (r : Response) : '"' ∈ keyElement n r := by
  unfold keyElement
  rw [Response.text_eq]
  simp

/-- A key element of a keymap says what some key with that code does. -/
theorem exists_key_of_mem_keymapOf {keymap : Keymap} {n : Nat} {r : Response}
    (h : keyElement n r ∈ keymapOf layout keymap) :
    ∃ key, Text.decimal n = Text.decimal (layout.registry.keyCodes key).mac
      ∧ r = response layout keymap key := by
  have hquote := quote_mem_keyElement n r
  obtain ⟨part, hpart, hmem⟩ := (Sectioned.mem_blocks_iff (List.ne_nil_of_mem hquote)).mp h
  obtain ⟨group, hgroup, rfl⟩ := List.mem_map.mp hpart
  rcases List.mem_cons.mp hmem with htitle | hmem
  · exact absurd (htitle ▸ hquote) (quote_not_mem_title group hgroup)
  · obtain ⟨key, -, hmem⟩ := List.mem_flatMap.mp hmem
    exact ⟨key, keyElement_inj (List.mem_singleton.mp hmem)⟩

/-- Every key has its element in a keymap. -/
theorem keyLine_mem_keymapOf (layout : Layout) (keymap : Keymap) (key : Key) :
    keyLine layout keymap key ∈ keymapOf layout keymap := by
  refine (Sectioned.mem_blocks_iff (List.ne_nil_of_mem (quote_mem_keyElement ..))).mpr ?_
  obtain ⟨group, hgroup, hkey⟩ := List.mem_flatMap.mp (Key.mem_all key)
  refine ⟨_, List.mem_map_of_mem hgroup, List.mem_cons_of_mem _ ?_⟩
  exact List.mem_flatMap.mpr ⟨key, hkey, List.mem_singleton_self _⟩

/-- The terminators are read as what each dead key types after itself. -/
theorem readWhens_terminatorLines (h : layout.Keyed) :
    readWhens (terminatorLines layout) =
      layout.deadKeys.map fun dk => ⟨dk.name, .output (Text.xml dk.altSelf)⟩ := by
  unfold readWhens terminatorLines
  rw [List.filterMap_map]
  refine List.filterMap_eq_map_iff_forall_eq_some.mpr fun dk hdk => ?_
  exact readWhen?_terminatorLine (h.quote_not_mem_name dk hdk) (quote_not_mem_xml dk.altSelf)

theorem readActions_skip {line : Text} (h : '"' ∉ line) (rest : List Text) :
    readActions (line :: rest) = readActions rest := by
  simp only [readActions, readActionId?_of_not_mem h]

/-- The lines of an action are read as the action, whatever follows. -/
theorem readActions_lines {action : Action} (h : action.Quotable) (rest : List Text) :
    readActions (action.lines ++ rest) = action :: readActions rest := by
  obtain ⟨name, whens⟩ := action
  obtain ⟨hname, hwhens⟩ : '"' ∉ name ∧ ∀ w ∈ whens, w.Quotable := h
  have hclosing : '"' ∉ closing := by decide
  have htake : ((whens.map When.text ++ [closing] ++ rest).takeWhile (· != closing)) =
      whens.map When.text := by
    rw [List.append_assoc, List.takeWhile_append_of_pos]
    · simp
    · intro line hline
      obtain ⟨w, hw, rfl⟩ := List.mem_map.mp hline
      rw [bne_iff_ne]
      intro heq
      have := readWhen?_text (hwhens w hw)
      rw [heq, readWhen?, twoAttributes?_of_not_mem hclosing] at this
      cases this
  have hread : readWhens (whens.map When.text) = whens := by
    unfold readWhens
    rw [List.filterMap_map, List.filterMap_eq_map_iff_forall_eq_some (g := id).mpr, List.map_id]
    exact fun w hw => readWhen?_text (hwhens w hw)
  have hskip : readActions (whens.map When.text ++ [closing] ++ rest) = readActions rest := by
    clear htake hread
    induction whens with
    | nil => exact readActions_skip hclosing rest
    | cons w whens ih =>
        simp only [List.map_cons, List.cons_append, readActions,
          readActionId?_text (hwhens w (List.mem_cons_self ..))]
        exact ih fun w' hw' => hwhens w' (List.mem_cons_of_mem _ hw')
  simp only [Action.lines, List.cons_append]
  rw [show "</action>".toList = closing from rfl]
  simp only [readActions, readActionId?_opening hname, htake, hread, hskip]

theorem readActions_flatMap_lines {actions : List Action} (h : ∀ a ∈ actions, a.Quotable)
    (rest : List Text) :
    readActions (actions.flatMap Action.lines ++ rest) = actions ++ readActions rest := by
  induction actions with
  | nil => rfl
  | cons action actions ih =>
      rw [List.flatMap_cons, List.append_assoc,
        readActions_lines (h action (List.mem_cons_self ..)),
        ih fun a ha => h a (List.mem_cons_of_mem _ ha), List.cons_append]

end KeyboardLayout.Keylayout
