import KeyboardLayout.Yaml.Document
import KeyboardLayout.Yaml.Schema

/-!
# Decoding documents

A decoder takes a value out of the node of a document, or fails. Aliases are followed wherever a
value is looked at, but only so often: a hundred times the size of the document, so that a small
document cannot stand for a huge one.

An empty plain scalar counts as a collection without entries where one is expected.
-/

namespace KeyboardLayout.Yaml

/-- A node of a document. -/
abbrev Value := Node Nat

/-- A decoder. It reads the anchored nodes, and its state says how often it may still follow an
alias. -/
abbrev Decoder := ReaderT (Table Nat Value) (StateT Nat Option)

namespace Decoder

/-- The node that an alias refers to; any other node is itself. -/
def follow : Value → Decoder Value
  | .aliasTo target => do
    match ← get with
    | 0 => failure
    | budget + 1 =>
      set budget
      match Table.get? target (← read) with
      | some value => return value
      | none => failure
  | value => return value

/-- The text of a scalar, however it is written. -/
def text (value : Value) : Decoder Text := do
  match ← follow value with
  | .scalar _ t _ => return t
  | _ => failure

/-- The text of a scalar of one character. -/
def char (value : Value) : Decoder Char := do
  match ← text value with
  | [c] => return c
  | _ => failure

def integerTag : Text :=
  "tag:yaml.org,2002:int".toList

/-- A number without sign below a limit: a plain scalar, or a literal block that is tagged as an
integer. -/
def natural (limit : Nat) (value : Value) : Decoder Nat := do
  match ← follow value with
  | .scalar properties t style =>
    if style = .plain ∨ (style = .literal ∧ properties.tag = some integerTag) then
      match unsigned? t with
      | some n => if n < limit then return n else failure
      | none => failure
    else failure
  | _ => failure

/-- An empty plain scalar. -/
def isNothing : Value → Bool
  | .scalar _ t style => t.isEmpty && style == Style.plain
  | _ => false

def items (value : Value) : Decoder (List Value) := do
  let value ← follow value
  match value with
  | .sequence _ items => return items
  | _ => if isNothing value then return [] else failure

def pairs (value : Value) : Decoder (List (Value × Value)) := do
  let value ← follow value
  match value with
  | .mapping _ pairs => return pairs
  | _ => if isNothing value then return [] else failure

/-- The items of a sequence, decoded. -/
def list {α : Type} (item : Value → Decoder α) (value : Value) : Decoder (List α) := do
  (← items value).mapM item

/-- The pairs of a mapping, decoded in their order. -/
def rows {α β : Type} (key : Value → Decoder α) (entry : Value → Decoder β) (value : Value) :
    Decoder (List (α × β)) := do
  (← pairs value).mapM fun pair => return (← key pair.1, ← entry pair.2)

/-! ## Local tags and enumerations -/

/-- What a local tag says behind its exclamation mark. -/
def localTag? (properties : Properties Nat) : Option Text :=
  properties.tag.bind (Text.after? ['!'])

/-- One of several named values: a scalar with the name, or a local tag with the name on a null. -/
def named {α : Type} (value? : Text → Option α) (value : Value) : Decoder α := do
  match ← follow value with
  | .scalar properties t style =>
    let name? := match localTag? properties with
      | none => some t
      | some name => if style = Style.plain ∧ (t.isEmpty ∨ isNull t) then some name else none
    match name?.bind value? with
    | some found => return found
    | none => failure
  | _ => failure

/-! ## Records -/

/-- The fields of a record that are there. -/
abbrev Fields := Table Text Value

/-- One more pair of a mapping read as a record. A field is given once; what is no field of the
record is passed over. -/
def addField (names : List Text) (fields : Fields) (pair : Value × Value) : Decoder Fields := do
  let name ← text pair.1
  if !names.contains name then return fields
  else if (Table.get? name fields).isSome then failure
  else return fields ++ [(name, pair.2)]

/-- The fields of a record: a mapping by their names, or a sequence in the order of `names`, of
which the last ones may be missing. -/
def record (names : List Text) (value : Value) : Decoder Fields := do
  match ← follow value with
  | .sequence _ items =>
    if items.length ≤ names.length then return names.zip items else failure
  | value => (← pairs value).foldlM (addField names) []

def required {α : Type} (fields : Fields) (name : Text) (decode : Value → Decoder α) :
    Decoder α :=
  match Table.get? name fields with
  | some value => decode value
  | none => failure

def optional {α : Type} (fields : Fields) (name : Text) (default : α)
    (decode : Value → Decoder α) : Decoder α :=
  match Table.get? name fields with
  | some value => decode value
  | none => return default

/-! ## Values of any shape -/

/-- The kind of a scalar under a tag; a scalar that the tag does not fit is refused. -/
def taggedKind (tag t : Text) : Option Kind :=
  match Text.after? "tag:yaml.org,2002:".toList tag with
  | none => some .text
  | some name =>
    if name = "bool".toList then if isBool t then some .bool else none
    else if name = "int".toList then (integerKind? t).bind id
    else if name = "float".toList then if isFloat t then some .float else none
    else if name = "null".toList then if isNull t then some .null else none
    else some .text

def scalarKind (properties : Properties Nat) (t : Text) (style : Style) : Option Kind :=
  match properties.tag with
  | some tag => taggedKind tag t
  | none => if style = .plain then plainKind t else some .text

/-- Goes through a value of any shape and answers its text, if it is one. Local tags are refused,
and so are collections nested deeper than `depth`. -/
def any : (depth : Nat) → Value → Decoder (Option Text)
  | depth, value => do
    match ← follow value with
    | .aliasTo _ => failure
    | .scalar properties t style =>
      if (localTag? properties).isSome then failure
      match scalarKind properties t style with
      | none => failure
      | some kind => return if kind = .text then some t else none
    | .sequence properties items =>
      if (localTag? properties).isSome then failure
      match depth with
      | 0 => failure
      | depth + 1 =>
        items.forM fun item => do let _ ← any depth item
        return none
    | .mapping properties pairs =>
      if (localTag? properties).isSome then failure
      match depth with
      | 0 => failure
      | depth + 1 =>
        pairs.forM fun pair => do
          let _ ← any depth pair.1
          let _ ← any depth pair.2
        return none

def ofText? {α : Type} (decode : Value → Decoder α) (t : Text) : Option α := do
  let document ← Document.ofText? t
  let (value, _) ← ((decode document.root).run document.anchors).run (100 * document.root.size)
  return value

end Decoder

end KeyboardLayout.Yaml
