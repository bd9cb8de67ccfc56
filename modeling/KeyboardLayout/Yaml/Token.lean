import KeyboardLayout.Yaml.Scalar

/-!
# Tokens

A YAML text as a list of tokens. Indentation becomes tokens too: where a column opens a block
collection a start token stands, and where it is left an end token.

A colon makes a key of what stands before it on the line, so that the key token has to be put
before tokens that are already there. `SimpleKey` remembers where that would be.
-/

namespace KeyboardLayout.Yaml

inductive Token
  | versionDirective (major minor : Nat)
  | tagDirective (handle lead : Text)
  | documentStart
  | documentEnd
  | blockSequenceStart
  | blockMappingStart
  | blockEnd
  | flowSequenceStart
  | flowSequenceEnd
  | flowMappingStart
  | flowMappingEnd
  | blockEntry
  | flowEntry
  | key
  | value
  | aliasTo (name : Text)
  | anchor (name : Text)
  | tag (handle suffix : Text)
  | scalar (value : Text) (style : Style)
  | streamEnd
  deriving DecidableEq, Repr

/-! ## Tags, anchors and directives -/

/-- The characters of a tag, besides letters, digits, `_` and `-`. -/
def uriChars : Text :=
  ";/?:@&=+$.!~*'()".toList

/-- The bytes of a UTF-8 character that starts with `lead`: how many there are, and what the first
one adds. -/
def utf8Lead? (lead : Nat) : Option (Nat × Nat) :=
  if lead < 0x80 then some (1, lead)
  else if 0xC0 ≤ lead ∧ lead < 0xE0 then some (2, lead - 0xC0)
  else if 0xE0 ≤ lead ∧ lead < 0xF0 then some (3, lead - 0xE0)
  else if 0xF0 ≤ lead ∧ lead < 0xF8 then some (4, lead - 0xF0)
  else none

/-- A byte written as a percent sign and two hexadecimal digits. -/
def escapedByte? : Text → Option (Nat × Text)
  | '%' :: a :: b :: rest => do
    let high ← Text.digit? 16 a
    let low ← Text.digit? 16 b
    return (16 * high + low, rest)
  | _ => none

/-- The bytes of a character after the first one, which add to `n`. -/
def escapedTail? : Nat → Nat → Text → Option (Nat × Text)
  | 0, n, t => some (n, t)
  | k + 1, n, t => do
    let (byte, rest) ← escapedByte? t
    if 0x80 ≤ byte ∧ byte < 0xC0 then escapedTail? k (64 * n + (byte - 0x80)) rest else none

/-- A character whose bytes are all written as escapes. -/
def escapedChar? (t : Text) : Option (Char × Text) := do
  let (lead, rest) ← escapedByte? t
  let (count, first) ← utf8Lead? lead
  let (n, rest) ← escapedTail? (count - 1) first rest
  return (Char.ofNat n, rest)

/-- The characters of a tag. The number counts characters of an escape that are still to be passed
over; `wide` admits the flow indicators that only a delimited tag can hold. -/
def scanUri (wide : Bool) (mark : Mark) (found : Text) : Nat → Text → Option (Text × Cursor)
  | _, [] => some (found.reverse, ⟨mark, []⟩)
  | n + 1, _ :: rest => scanUri wide (mark.skip 1) found n rest
  | 0, c :: rest =>
    if c == '%' then
      match escapedChar? (c :: rest) with
      | some (d, behind) => scanUri wide (mark.skip 1) (d :: found) (rest.length - behind.length) rest
      | none => none
    else if isNameChar c || uriChars.contains c || (wide && ",[]".toList.contains c) then
      scanUri wide (mark.skip 1) (c :: found) 0 rest
    else some (found.reverse, ⟨mark, c :: rest⟩)

/-- A tag text that starts with `head` and must not be empty unless a head is given. -/
def tagUri? (wide : Bool) (head : Text) (cursor : Cursor) : Option (Text × Cursor) := do
  let (uri, behind) ← scanUri wide cursor.mark [] 0 cursor.rest
  if head.isEmpty && uri.isEmpty then none
  else return (head.drop 1 ++ uri, behind)

/-- A tag handle: an exclamation mark, a name and perhaps a second mark. A directive needs the
second mark unless the handle is the single one. -/
def tagHandle? (inDirective : Bool) (cursor : Cursor) : Option (Text × Cursor) :=
  if cursor.peek 0 == some '!' then
    let (name, behind) := (cursor.skip 1).takeWhile isNameChar
    if behind.peek 0 == some '!' then some (['!'] ++ name ++ ['!'], behind.skip 1)
    else if inDirective && !name.isEmpty then none
    else some ('!' :: name, behind)
  else none

/-- The handle names a tag of its own and not the start of a tag. -/
def isFullHandle (handle : Text) : Bool :=
  2 ≤ handle.length && handle.getLast? == some '!'

/-- A tag, in front of which the cursor stands. -/
def scanTag (inFlow : Bool) (cursor : Cursor) : Option (Token × Cursor) := do
  let (handle, suffix, behind) ←
    if cursor.peek 1 == some '<' then do
      let (uri, behind) ← tagUri? true [] (cursor.skip 2)
      if behind.peek 0 == some '>' then some (([] : Text), uri, behind.skip 1) else none
    else do
      let (handle, behind) ← tagHandle? false cursor
      if isFullHandle handle then do
        let (uri, behind) ← tagUri? false [] behind
        some (handle, uri, behind)
      else do
        let (uri, behind) ← tagUri? false handle behind
        if uri.isEmpty then some (([] : Text), ['!'], behind) else some (['!'], uri, behind)
  if isBlankEnd (behind.peek 0) || (inFlow && behind.peek 0 == some ',') then
    return (.tag handle suffix, behind)
  else none

/-- What may follow the name of an anchor. -/
def endsAnchor (next : Option Char) : Bool :=
  isBlankEnd next || next.any "?:,]\x7d%@\x60".toList.contains

/-- An anchor or an alias, in front of which the cursor stands. -/
def scanAnchor (make : Text → Token) (cursor : Cursor) : Option (Token × Cursor) :=
  let (name, behind) := (cursor.skip 1).takeWhile isNameChar
  if name.isEmpty || !endsAnchor (behind.peek 0) then none else some (make name, behind)

/-- One to nine decimal digits. -/
def versionNumber? (cursor : Cursor) : Option (Nat × Cursor) :=
  let (digits, behind) := cursor.takeWhile Char.isDigit
  if digits.isEmpty || 9 < digits.length then none
  else some (digits.foldl (fun n c => 10 * n + (c.toNat - '0'.toNat)) 0, behind)

/-- A directive, in front of which the cursor stands, with the rest of its line. -/
def scanDirective (cursor : Cursor) : Option (Token × Cursor) := do
  let (name, behind) := (cursor.skip 1).takeWhile isNameChar
  if name.isEmpty || !isBlankEnd (behind.peek 0) then none
  let (token, behind) ←
    if name == "YAML".toList then do
      let (major, behind) ← versionNumber? behind.skipBlanks
      if behind.peek 0 != some '.' then none
      let (minor, behind) ← versionNumber? (behind.skip 1)
      some (Token.versionDirective major minor, behind)
    else if name == "TAG".toList then do
      let (handle, behind) ← tagHandle? true behind.skipBlanks
      if !(behind.peek 0).any isBlank then none
      let (lead, behind) ← tagUri? true [] behind.skipBlanks
      if !isBlankEnd (behind.peek 0) then none
      some (Token.tagDirective handle lead, behind)
    else none
  let behind ← behind.lineEnd?
  return (token, behind.skipBreak)

/-! ## The scanner -/

/-- A place before which a key token may still be put. -/
structure SimpleKey where
  /-- How many tokens stand before it. -/
  tokens : Nat
  mark : Mark
  /-- It stands at the start of a line of a block mapping, so that it must become a key. -/
  required : Bool
  deriving Repr

/-- The state of scanning. -/
structure Scanner where
  cursor : Cursor
  /-- The columns of the open block collections, the innermost first. -/
  indents : List Nat := []
  /-- A key may start here. -/
  keyAllowed : Bool := true
  /-- The possible keys: that of the innermost flow collection first, that of the block context
  last. -/
  keys : List (Option SimpleKey) := [none]
  /-- The tokens so far, the last one first. -/
  tokens : List Token := []

namespace Scanner

def flowLevel (s : Scanner) : Nat :=
  s.keys.length - 1

def inFlow (s : Scanner) : Bool :=
  0 < s.flowLevel

def emit (s : Scanner) (token : Token) : Scanner :=
  { s with tokens := token :: s.tokens }

/-- The scanner with a token put behind the first `n` ones. -/
def emitAt (s : Scanner) (n : Nat) (token : Token) : Scanner :=
  { s with tokens := s.tokens.insertIdx (s.tokens.length - n) token }

def skip (s : Scanner) (n : Nat) : Scanner :=
  { s with cursor := s.cursor.skip n }

def column (s : Scanner) : Nat :=
  s.cursor.mark.column

/-- Gives up the possible key of the innermost collection, unless it must be one. -/
def dropKey (s : Scanner) : Option Scanner :=
  match s.keys with
  | some key :: rest => if key.required then none else some { s with keys := none :: rest }
  | _ => some s

/-- Notes that a key may start here, if it may. -/
def saveKey (s : Scanner) : Option Scanner :=
  if s.keyAllowed then do
    let required := !s.inFlow && s.indents.head? == some s.column
    let s ← s.dropKey
    return { s with keys := some ⟨s.tokens.length, s.cursor.mark, required⟩ :: s.keys.drop 1 }
  else some s

/-- A key does not go over a line end, nor over more than 1024 characters. -/
def isStale (mark : Mark) (key : SimpleKey) : Bool :=
  key.mark.line < mark.line || key.mark.index + 1024 < mark.index

/-- Gives up the possible keys that lie too far back. -/
def dropStaleKeys (s : Scanner) : Option Scanner :=
  let stale := isStale s.cursor.mark
  if s.keys.any fun key? => key?.any fun key => stale key && key.required then none
  else some { s with keys := s.keys.map fun key? => key?.filter fun key => !stale key }

/-- Opens a block collection at a column, unless one is open there. The number says behind how
many tokens its start token stands. -/
def openBlock (s : Scanner) (column : Nat) (place : Nat) (token : Token) : Scanner :=
  if s.inFlow || s.indents.head?.any (column ≤ ·) then s
  else { s.emitAt place token with indents := column :: s.indents }

/-- Closes the block collections to the right of a column, or all of them. -/
def closeBlocks (s : Scanner) (column : Option Nat) : Scanner :=
  if s.inFlow then s
  else
    let closed := s.indents.takeWhile fun indent => column.all (· < indent)
    { s with
      indents := s.indents.drop closed.length
      tokens := closed.map (fun _ => Token.blockEnd) ++ s.tokens }

/-- Passes over blanks, comments and line breaks. A tab does not indent a line that may start with
a key. -/
def skipSpace (s : Scanner) : (fuel : Nat) → Scanner
  | 0 => s
  | fuel + 1 =>
    let s :=
      if s.column == 0 && s.cursor.peek 0 == some byteOrderMark then s.skip 1 else s
    let tabs := s.inFlow || !s.keyAllowed
    let s := { s with cursor := (s.cursor.takeWhile fun c => c == ' ' || (tabs && c == '\t')).2 }
    let s :=
      if s.cursor.peek 0 == some '#' then
        { s with cursor := (s.cursor.takeWhile fun c => !isBreak c).2 }
      else s
    if (s.cursor.peek 0).any isBreak then
      let s := { s with cursor := s.cursor.skipBreak }
      (if s.inFlow then s else { s with keyAllowed := true }).skipSpace fuel
    else s

/-- The end of the text closes everything. -/
def fetchEnd (s : Scanner) : Option Scanner := do
  let s ← (s.closeBlocks none).dropKey
  return s.emit .streamEnd

/-- A directive or a document indicator closes all block collections. -/
def fetchTopLevel (s : Scanner) (scan : Cursor → Option (Token × Cursor)) : Option Scanner := do
  let s ← (s.closeBlocks none).dropKey
  let (token, cursor) ← scan s.cursor
  return { s with cursor, keyAllowed := false }.emit token

def fetchFlowStart (s : Scanner) (token : Token) : Option Scanner := do
  let s ← s.saveKey
  return { s with keys := none :: s.keys, keyAllowed := true }.emit token |>.skip 1

def fetchFlowEnd (s : Scanner) (token : Token) : Option Scanner := do
  let s ← s.dropKey
  let keys := if s.inFlow then s.keys.drop 1 else s.keys
  return { s with keys, keyAllowed := false }.emit token |>.skip 1

/-- The comma of a flow collection. -/
def fetchFlowEntry (s : Scanner) : Option Scanner := do
  let s ← s.dropKey
  return { s with keyAllowed := true }.emit .flowEntry |>.skip 1

/-- The dash of a block sequence. -/
def fetchBlockEntry (s : Scanner) : Option Scanner := do
  if !s.inFlow && !s.keyAllowed then none
  let s ← (s.openBlock s.column s.tokens.length .blockSequenceStart).dropKey
  return { s with keyAllowed := true }.emit .blockEntry |>.skip 1

/-- The question mark before a key. -/
def fetchKey (s : Scanner) : Option Scanner := do
  if !s.inFlow && !s.keyAllowed then none
  let s ← (s.openBlock s.column s.tokens.length .blockMappingStart).dropKey
  return { s with keyAllowed := !s.inFlow }.emit .key |>.skip 1

/-- The colon before a value. If a key may have started, it has. -/
def fetchValue (s : Scanner) : Option Scanner :=
  match s.keys with
  | some key :: rest =>
    let s := (s.emitAt key.tokens .key).openBlock key.mark.column key.tokens .blockMappingStart
    some ({ s with keys := none :: rest, keyAllowed := false }.emit .value |>.skip 1)
  | _ =>
    if !s.inFlow && !s.keyAllowed then none
    else
      let s := s.openBlock s.column s.tokens.length .blockMappingStart
      some ({ s with keyAllowed := !s.inFlow }.emit .value |>.skip 1)

/-- A token that may start a key. -/
def fetchKeyStart (s : Scanner) (scan : Cursor → Option (Token × Cursor)) : Option Scanner := do
  let s ← s.saveKey
  let (token, cursor) ← scan s.cursor
  return { s with cursor, keyAllowed := false }.emit token

/-- A block scalar. -/
def fetchBlockScalar (s : Scanner) (style : Style) : Option Scanner := do
  let s ← s.dropKey
  let (value, cursor) ← scanBlockScalar (style == .folded) s.indents.head? (s.cursor.skip 1)
  return { s with cursor, keyAllowed := true }.emit (.scalar value style)

/-- A plain scalar. If a line break follows it, a key may start behind it. -/
def fetchPlain (s : Scanner) : Option Scanner := do
  let s ← s.saveKey
  let context : PlainContext := ⟨s.indents.head?.elim 0 (· + 1), s.inFlow⟩
  let (value, broken, cursor) ← scanPlain context {} s.cursor.mark s.cursor.rest
  return { s with cursor, keyAllowed := broken }.emit (.scalar value .plain)

/-- The characters that no plain scalar starts with. -/
def indicators : Text :=
  "-?:,[]\x7b\x7d#&*!|>'\"%@\x60".toList

/-- A plain scalar may start with the character; a dash, a question mark or a colon needs a
suitable successor. -/
def startsPlain (inFlow : Bool) (c : Char) (next : Option Char) : Bool :=
  !(isBlankEnd (some c) || indicators.contains c) ||
    (c == '-' && !next.any isBlank) ||
    (!inFlow && (c == '?' || c == ':') && !isBlankEnd next)

/-- A quoted scalar, in front of which the cursor stands. -/
def scanQuoted (style : Style) (scan : Mark → Text → Option (Text × Cursor)) (cursor : Cursor) :
    Option (Token × Cursor) :=
  let inner := cursor.skip 1
  (scan inner.mark inner.rest).map fun (value, behind) => (.scalar value style, behind)

/-- The next token, at a place where no space lies before it. -/
def fetchToken (s : Scanner) : Option Scanner :=
  let next := s.cursor.peek 1
  match s.cursor.peek 0 with
  | none => s.fetchEnd
  | some c =>
    if s.column == 0 && c == '%' then s.fetchTopLevel scanDirective
    else if s.cursor.atIndicator '-' then
      s.fetchTopLevel fun cursor => some (.documentStart, cursor.skip 3)
    else if s.cursor.atIndicator '.' then
      s.fetchTopLevel fun cursor => some (.documentEnd, cursor.skip 3)
    else if c == '[' then s.fetchFlowStart .flowSequenceStart
    else if c == '\x7b' then s.fetchFlowStart .flowMappingStart
    else if c == ']' then s.fetchFlowEnd .flowSequenceEnd
    else if c == '\x7d' then s.fetchFlowEnd .flowMappingEnd
    else if c == ',' then s.fetchFlowEntry
    else if c == '-' && isBlankEnd next then s.fetchBlockEntry
    else if c == '?' && (s.inFlow || isBlankEnd next) then s.fetchKey
    else if c == ':' && (s.inFlow || isBlankEnd next) then s.fetchValue
    else if c == '*' then s.fetchKeyStart (scanAnchor .aliasTo)
    else if c == '&' then s.fetchKeyStart (scanAnchor .anchor)
    else if c == '!' then s.fetchKeyStart (scanTag s.inFlow)
    else if c == '|' && !s.inFlow then s.fetchBlockScalar .literal
    else if c == '>' && !s.inFlow then s.fetchBlockScalar .folded
    else if c == '\'' then s.fetchKeyStart (scanQuoted .singleQuoted (scanSingleQuoted {}))
    else if c == '"' then
      s.fetchKeyStart (scanQuoted .doubleQuoted fun mark t => scanDoubleQuoted {} mark 0 t)
    else if startsPlain s.inFlow c next then s.fetchPlain
    else none

def run (s : Scanner) : (fuel : Nat) → Option (List Token)
  | 0 => none
  | fuel + 1 => do
    let s ← (s.skipSpace (s.cursor.rest.length + 1)).dropStaleKeys
    let s ← (s.closeBlocks (some s.column)).fetchToken
    match s.tokens with
    | .streamEnd :: _ => return s.tokens.reverse
    | _ => s.run fuel

end Scanner

/-- The tokens of a text. A byte order mark at its start does not count. -/
def Token.ofText? (t : Text) : Option (List Token) :=
  if t.all isAllowed then
    let rest := if t.head? == some byteOrderMark then t.drop 1 else t
    Scanner.run { cursor := ⟨.start, rest⟩ } (rest.length + 1)
  else none

end KeyboardLayout.Yaml
