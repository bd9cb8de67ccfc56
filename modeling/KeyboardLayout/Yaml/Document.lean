import KeyboardLayout.Table
import KeyboardLayout.Yaml.Node

/-!
# Documents

A YAML text holds one document: directives, a node and an end. In the document every anchor has a
number, which is how many different names were given to anchors before it. An alias refers to the
number that its name had last, and a number to the node that got it last.
-/

namespace KeyboardLayout.Yaml

/-! ## Directives -/

/-- Reads the directives in front of a document. The version is given at most once, and so is each
handle. -/
def parseDirectives : (versionKnown : Bool) → Handles → List Token →
    Option (Handles × List Token)
  | known, handles, .versionDirective major minor :: rest =>
    if known || major != 1 || (minor != 1 && minor != 2) then none
    else parseDirectives true handles rest
  | known, handles, .tagDirective handle lead :: rest =>
    if (handles.lookup handle).isSome then none
    else parseDirectives known (handles ++ [(handle, lead)]) rest
  | _, handles, tokens => some (handles ++ Handles.standard, tokens)

/-- The document has no content before these tokens. -/
def endsContent : List Token → Bool
  | .versionDirective _ _ :: _ | .tagDirective _ _ :: _ => true
  | .documentStart :: _ | .documentEnd :: _ | .streamEnd :: _ => true
  | _ => false

/-- The document starts with an indicator, or with directives that need one. -/
def startsExplicitly : List Token → Bool
  | .versionDirective _ _ :: _ | .tagDirective _ _ :: _ | .documentStart :: _ => true
  | _ => false

/-- The node of a document and the tokens behind it. A text without any tokens holds the empty
scalar. -/
def parseDocument (tokens : List Token) : Option (Node Text × List Token) :=
  if startsExplicitly tokens then
    match parseDirectives false [] tokens with
    | some (handles, .documentStart :: rest) =>
      if endsContent rest then some (.empty, rest) else Node.ofTokens? handles rest
    | _ => none
  else if tokens = [.streamEnd] then some (.empty, tokens)
  else Node.ofTokens? Handles.standard tokens

/-! ## Anchors -/

/-- The numbers of the anchors so far. -/
abbrev Numbering := Table Text Nat

namespace Numbering

/-- Gives a number to an anchor. -/
def declare (numbering : Numbering) (properties : Properties Text) :
    Properties Nat × Numbering :=
  match properties.anchor with
  | none => (⟨none, properties.tag⟩, numbering)
  | some name =>
    (⟨some numbering.length, properties.tag⟩, Table.put name numbering.length numbering)

end Numbering

mutual

/-- The node with numbers for names. -/
def numberNode (numbering : Numbering) : Node Text → Option (Node Nat × Numbering)
  | .aliasTo name => (Table.get? name numbering).map fun number => (.aliasTo number, numbering)
  | .scalar properties value style =>
    let (properties, numbering) := numbering.declare properties
    some (.scalar properties value style, numbering)
  | .sequence properties items => do
    let (properties, numbering) := numbering.declare properties
    let (items, numbering) ← numberItems numbering items
    return (.sequence properties items, numbering)
  | .mapping properties pairs => do
    let (properties, numbering) := numbering.declare properties
    let (pairs, numbering) ← numberPairs numbering pairs
    return (.mapping properties pairs, numbering)

def numberItems (numbering : Numbering) :
    List (Node Text) → Option (List (Node Nat) × Numbering)
  | [] => some ([], numbering)
  | item :: rest => do
    let (item, numbering) ← numberNode numbering item
    let (rest, numbering) ← numberItems numbering rest
    return (item :: rest, numbering)

def numberPairs (numbering : Numbering) :
    List (Node Text × Node Text) → Option (List (Node Nat × Node Nat) × Numbering)
  | [] => some ([], numbering)
  | (key, value) :: rest => do
    let (key, numbering) ← numberNode numbering key
    let (value, numbering) ← numberNode numbering value
    let (rest, numbering) ← numberPairs numbering rest
    return ((key, value) :: rest, numbering)

end

/-- The row of an anchor's number and its node. -/
def anchorRow (properties : Properties Nat) (node : Node Nat) : List (Nat × Node Nat) :=
  (properties.anchor.map fun number => (number, node)).toList

mutual

/-- The anchored nodes in a node, each before those that it contains. -/
def anchorsOf : Node Nat → List (Nat × Node Nat)
  | .aliasTo _ => []
  | .scalar properties value style => anchorRow properties (.scalar properties value style)
  | .sequence properties items =>
    anchorRow properties (.sequence properties items) ++ anchorsOfItems items
  | .mapping properties pairs =>
    anchorRow properties (.mapping properties pairs) ++ anchorsOfPairs pairs

def anchorsOfItems : List (Node Nat) → List (Nat × Node Nat)
  | [] => []
  | item :: rest => anchorsOf item ++ anchorsOfItems rest

def anchorsOfPairs : List (Node Nat × Node Nat) → List (Nat × Node Nat)
  | [] => []
  | (key, value) :: rest => anchorsOf key ++ anchorsOf value ++ anchorsOfPairs rest

end

/-! ## Documents -/

structure Document where
  root : Node Nat
  /-- The nodes that aliases refer to. -/
  anchors : Table Nat (Node Nat)

namespace Document

/-- The only document of a text. -/
def ofText? (t : Text) : Option Document := do
  let tokens ← Token.ofText? t
  let (node, rest) ← parseDocument tokens
  if rest.dropWhile (· == .documentEnd) ≠ [.streamEnd] then none
  let (root, _) ← numberNode [] node
  return ⟨root, Table.ofRows (anchorsOf root)⟩

end Document

end KeyboardLayout.Yaml
