import KeyboardLayout.Yaml.Token

/-!
# Nodes

The tree that the tokens of a document describe. A node may carry an anchor, by which an alias
elsewhere refers to it, and a tag. Where the grammar expects a node and finds none, an empty plain
scalar stands.

`Node` is open in the type of its anchors: names as they are written, or the numbers that
`Document` gives them.
-/

namespace KeyboardLayout.Yaml

/-- What may stand in front of a node. -/
structure Properties (α : Type) where
  anchor : Option α := none
  tag : Option Text := none
  deriving DecidableEq, Repr

/-- A node with anchors of type `α`. -/
inductive Node (α : Type) where
  | aliasTo (target : α)
  | scalar (properties : Properties α) (value : Text) (style : Style)
  | sequence (properties : Properties α) (items : List (Node α))
  | mapping (properties : Properties α) (pairs : List (Node α × Node α))
  deriving Repr

namespace Node

/-- The node where nothing is written. -/
def empty {α : Type} : Node α :=
  .scalar {} [] .plain

mutual

/-- How many places of a document the node takes: one for a scalar or an alias, the start and the
end for a collection. -/
def size {α : Type} : Node α → Nat
  | aliasTo _ => 1
  | scalar _ _ _ => 1
  | sequence _ items => 2 + sizeItems items
  | mapping _ pairs => 2 + sizePairs pairs

def sizeItems {α : Type} : List (Node α) → Nat
  | [] => 0
  | item :: rest => size item + sizeItems rest

def sizePairs {α : Type} : List (Node α × Node α) → Nat
  | [] => 0
  | (key, value) :: rest => size key + size value + sizePairs rest

end

end Node

/-! ## Tags and properties -/

/-- What tag handles stand for. -/
abbrev Handles := List (Text × Text)

/-- The handles that need no directive. -/
def Handles.standard : Handles :=
  [("!".toList, "!".toList), ("!!".toList, "tag:yaml.org,2002:".toList)]

/-- The full tag. Without a handle the suffix is all of it. -/
def Handles.tag? (handles : Handles) (handle suffix : Text) : Option Text :=
  if handle.isEmpty then some suffix else (handles.lookup handle).map (· ++ suffix)

/-- The anchor and the tag in front of a node, in either order. -/
def properties? (handles : Handles) :
    List Token → Option (Properties Text × List Token)
  | .anchor name :: .tag handle suffix :: rest
  | .tag handle suffix :: .anchor name :: rest => do
    let tag ← handles.tag? handle suffix
    return (⟨some name, some tag⟩, rest)
  | .anchor name :: rest => some (⟨some name, none⟩, rest)
  | .tag handle suffix :: rest => do
    let tag ← handles.tag? handle suffix
    return (⟨none, some tag⟩, rest)
  | tokens => some ({}, tokens)

/-! ## The grammar -/

/-- Where a node stands. -/
inductive Place
  /-- In a collection of flow style. -/
  | flow
  /-- In a block sequence or at the top. -/
  | block
  /-- In a block mapping, where a sequence needs no indentation. -/
  | blockMapping
  deriving DecidableEq, Repr

/-- The tokens before which a block sequence has an empty item. -/
def endsItem : List Token → Bool
  | .blockEntry :: _ | .blockEnd :: _ => true
  | _ => false

/-- The tokens before which a block mapping has an empty key or value. -/
def endsPair : List Token → Bool
  | .key :: _ | .value :: _ | .blockEnd :: _ => true
  | _ => false

/-- The tokens before which a flow collection that ends with `final` has an empty value. -/
def endsFlowValue (final : Token) : List Token → Bool
  | .flowEntry :: _ => true
  | token :: _ => token == final
  | [] => false

/-- The tokens before which a flow collection that ends with `final` has an empty key. -/
def endsFlowKey (final : Token) : List Token → Bool
  | .value :: _ => true
  | tokens => endsFlowValue final tokens

mutual

/-- The node at the start of the tokens, and the tokens behind it. -/
def parseNode (handles : Handles) : (fuel : Nat) → Place → List Token →
    Option (Node Text × List Token)
  | 0, _, _ => none
  | _ + 1, _, .aliasTo name :: rest => some (.aliasTo name, rest)
  | fuel + 1, place, tokens => do
    let (properties, tokens) ← properties? handles tokens
    match tokens with
    | .scalar value style :: rest =>
      let tag := properties.tag.filter (· != "!".toList)
      return (.scalar { properties with tag } value style, rest)
    | .flowSequenceStart :: rest =>
      let (items, rest) ← parseFlowItems handles fuel true rest
      return (.sequence properties items, rest)
    | .flowMappingStart :: rest =>
      let (pairs, rest) ← parseFlowPairs handles fuel true rest
      return (.mapping properties pairs, rest)
    | .blockSequenceStart :: rest =>
      if place = .flow then parseNothing properties tokens
      else
        let (items, rest) ← parseItems handles fuel rest
        return (.sequence properties items, rest)
    | .blockMappingStart :: rest =>
      if place = .flow then parseNothing properties tokens
      else
        let (pairs, rest) ← parsePairs handles fuel rest
        return (.mapping properties pairs, rest)
    | .blockEntry :: _ =>
      if place = .blockMapping then
        let (items, rest) ← parseIndentlessItems handles fuel tokens
        return (.sequence properties items, rest)
      else parseNothing properties tokens
    | _ => parseNothing properties tokens

/-- Only an anchor or a tag shows that there is a node where nothing is written. -/
def parseNothing (properties : Properties Text) (tokens : List Token) :
    Option (Node Text × List Token) :=
  if properties = {} then none else some (.scalar properties [] .plain, tokens)

def parseItems (handles : Handles) : (fuel : Nat) → List Token →
    Option (List (Node Text) × List Token)
  | 0, _ => none
  | fuel + 1, .blockEntry :: rest => do
    let (item, rest) ←
      if endsItem rest then some (.empty, rest) else parseNode handles fuel .block rest
    let (items, rest) ← parseItems handles fuel rest
    return (item :: items, rest)
  | _ + 1, .blockEnd :: rest => some ([], rest)
  | _ + 1, _ => none

/-- The items of a sequence in a block mapping that is not indented. -/
def parseIndentlessItems (handles : Handles) : (fuel : Nat) → List Token →
    Option (List (Node Text) × List Token)
  | 0, _ => none
  | fuel + 1, .blockEntry :: rest => do
    let (item, rest) ←
      if endsItem rest || endsPair rest then some (.empty, rest)
      else parseNode handles fuel .block rest
    let (items, rest) ← parseIndentlessItems handles fuel rest
    return (item :: items, rest)
  | _ + 1, tokens => some ([], tokens)

def parsePairs (handles : Handles) : (fuel : Nat) → List Token →
    Option (List (Node Text × Node Text) × List Token)
  | 0, _ => none
  | fuel + 1, .key :: rest => do
    let (key, rest) ←
      if endsPair rest then some (.empty, rest)
      else parseNode handles fuel .blockMapping rest
    let (value, rest) ← parseValue handles fuel rest
    let (pairs, rest) ← parsePairs handles fuel rest
    return ((key, value) :: pairs, rest)
  | _ + 1, .blockEnd :: rest => some ([], rest)
  | _ + 1, _ => none

def parseValue (handles : Handles) : (fuel : Nat) → List Token →
    Option (Node Text × List Token)
  | 0, _ => none
  | fuel + 1, .value :: rest =>
    if endsPair rest then some (.empty, rest) else parseNode handles fuel .blockMapping rest
  | _ + 1, tokens => some (.empty, tokens)

/-- The items of a flow sequence; all but the first have a comma before them. An item that starts
with a key is a mapping of one pair. -/
def parseFlowItems (handles : Handles) : (fuel : Nat) → (isFirst : Bool) → List Token →
    Option (List (Node Text) × List Token)
  | 0, _, _ => none
  | _ + 1, _, .flowSequenceEnd :: rest => some ([], rest)
  | fuel + 1, false, .flowEntry :: rest => parseFlowItem handles fuel rest
  | _ + 1, false, _ => none
  | fuel + 1, true, tokens => parseFlowItem handles fuel tokens

/-- One item of a flow sequence and all that follow it. A comma may stand before the end. -/
def parseFlowItem (handles : Handles) : (fuel : Nat) → List Token →
    Option (List (Node Text) × List Token)
  | 0, _ => none
  | _ + 1, .flowSequenceEnd :: rest => some ([], rest)
  | fuel + 1, .key :: rest => do
    let (key, rest) ←
      if endsFlowKey .flowSequenceEnd rest then some (.empty, rest.drop 1)
      else parseNode handles fuel .flow rest
    let (value, rest) ← parseFlowValue handles fuel .flowSequenceEnd rest
    let (items, rest) ← parseFlowItems handles fuel false rest
    return (.mapping {} [(key, value)] :: items, rest)
  | fuel + 1, tokens => do
    let (item, rest) ← parseNode handles fuel .flow tokens
    let (items, rest) ← parseFlowItems handles fuel false rest
    return (item :: items, rest)

/-- The value of a pair of a flow collection that ends with `final`. -/
def parseFlowValue (handles : Handles) : (fuel : Nat) → (final : Token) → List Token →
    Option (Node Text × List Token)
  | 0, _, _ => none
  | fuel + 1, final, .value :: rest =>
    if endsFlowValue final rest then some (.empty, rest) else parseNode handles fuel .flow rest
  | _ + 1, _, tokens => some (.empty, tokens)

/-- The pairs of a flow mapping; all but the first have a comma before them. -/
def parseFlowPairs (handles : Handles) : (fuel : Nat) → (isFirst : Bool) → List Token →
    Option (List (Node Text × Node Text) × List Token)
  | 0, _, _ => none
  | _ + 1, _, .flowMappingEnd :: rest => some ([], rest)
  | fuel + 1, false, .flowEntry :: rest => parseFlowPair handles fuel rest
  | _ + 1, false, _ => none
  | fuel + 1, true, tokens => parseFlowPair handles fuel tokens

/-- One pair of a flow mapping and all that follow it. A node without a key token is a key
without a value. -/
def parseFlowPair (handles : Handles) : (fuel : Nat) → List Token →
    Option (List (Node Text × Node Text) × List Token)
  | 0, _ => none
  | _ + 1, .flowMappingEnd :: rest => some ([], rest)
  | fuel + 1, .key :: rest => do
    let (key, rest) ←
      if endsFlowKey .flowMappingEnd rest then some (.empty, rest)
      else parseNode handles fuel .flow rest
    let (value, rest) ← parseFlowValue handles fuel .flowMappingEnd rest
    let (pairs, rest) ← parseFlowPairs handles fuel false rest
    return ((key, value) :: pairs, rest)
  | fuel + 1, tokens => do
    let (key, rest) ← parseNode handles fuel .flow tokens
    let (pairs, rest) ← parseFlowPairs handles fuel false rest
    return ((key, .empty) :: pairs, rest)

end

/-- The node at the start of the tokens of a document. Every second step consumes a token, so that
the fuel suffices. -/
def Node.ofTokens? (handles : Handles) (tokens : List Token) :
    Option (Node Text × List Token) :=
  parseNode handles (3 * tokens.length + 3) .block tokens

end KeyboardLayout.Yaml
