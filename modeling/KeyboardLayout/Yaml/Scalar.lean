import KeyboardLayout.Text.Number
import KeyboardLayout.Yaml.Char

/-!
# Scalars

The five ways to write a text: plain, between single or double quotes, and as a literal or folded
block. Each reader goes over the text character by character and answers the value of the scalar
and the cursor behind it, or nothing if the scalar is not well formed.

A line break between two words of a plain or quoted scalar becomes a space; of several breaks the
first is dropped and the others stay. `Fold` keeps what lies between two words until it is known
what follows.
-/

namespace KeyboardLayout.Yaml

inductive Style
  | plain | singleQuoted | doubleQuoted | literal | folded
  deriving DecidableEq, Repr

/-! ## Folding -/

/-- The part of a scalar that has been read, with what was read since its last word. Texts are
kept in reverse. -/
structure Fold where
  text : Text := []
  /-- Blanks on the line of the last word. -/
  blanks : Text := []
  /-- The first line break since the last word. -/
  leading : Text := []
  /-- The other line breaks. -/
  trailing : Text := []
  /-- The line of the last word has ended. -/
  broken : Bool := false

namespace Fold

/-- A blank counts unless it indents a line. -/
def blank (fold : Fold) (c : Char) : Fold :=
  if fold.broken then fold else { fold with blanks := c :: fold.blanks }

/-- A line break, of which the scalar keeps `c`. -/
def lineBreak (fold : Fold) (c : Char) : Fold :=
  if fold.broken then { fold with trailing := c :: fold.trailing }
  else { fold with blanks := [], leading := [c], broken := true }

/-- A line break that is escaped leaves nothing. -/
def escapedBreak (fold : Fold) : Fold :=
  { fold with broken := true }

/-- Something lies between the last word and here. -/
def isPending (fold : Fold) : Bool :=
  fold.broken || !fold.blanks.isEmpty

/-- What lies between the last word and here becomes text. -/
def join (fold : Fold) : Fold :=
  let between :=
    if fold.broken then
      if fold.leading == ['\n'] then
        if fold.trailing.isEmpty then [' '] else fold.trailing
      else fold.trailing ++ fold.leading
    else fold.blanks
  { text := between ++ fold.text }

def word (fold : Fold) (c : Char) : Fold :=
  let fold := fold.join
  { fold with text := c :: fold.text }

/-- The scalar, without what lies behind its last word. -/
def value (fold : Fold) : Text :=
  fold.text.reverse

end Fold

/-! ## Plain scalars -/

/-- Where a plain scalar stands: the column that its lines must reach, and whether it stands in a
collection of flow style. -/
structure PlainContext where
  indent : Nat
  inFlow : Bool

/-- The scalar ends before this character because of what the character is. -/
def endsPlain (context : PlainContext) (c : Char) (next : Option Char) : Bool :=
  (c == ':' && isBlankEnd next) || (context.inFlow && isFlowIndicator c)

/-- A colon that could end a key, with a flow indicator behind it. -/
def isStrayColon (context : PlainContext) (c : Char) (next : Option Char) : Bool :=
  context.inFlow && c == ':' && next.any fun d => isFlowIndicator d || d == '?'

/-- A plain scalar: its value, the cursor behind it and the blanks that follow it, and whether
these hold a line break. -/
def scanPlain (context : PlainContext) (fold : Fold) (mark : Mark) :
    Text → Option (Text × Bool × Cursor)
  | [] => some (fold.value, fold.broken, ⟨mark, []⟩)
  | '\r' :: '\n' :: rest => scanPlain context (fold.lineBreak '\n') (mark.newLine 2) rest
  | c :: rest =>
    let stop := some (fold.value, fold.broken, ⟨mark, c :: rest⟩)
    if isBlank c then
      if fold.broken && mark.column < context.indent && c == '\t' then none
      else scanPlain context (fold.blank c) (mark.skip 1) rest
    else if c == '\u2028' || c == '\u2029' then
      scanPlain context (fold.lineBreak c) (mark.newLine 1) rest
    else if isBreak c then scanPlain context (fold.lineBreak '\n') (mark.newLine 1) rest
    else if fold.isPending &&
        ((!context.inFlow && mark.column < context.indent) ||
          (Cursor.mk mark (c :: rest)).atDocumentIndicator || c == '#') then stop
    else if isStrayColon context c rest.head? then none
    else if endsPlain context c rest.head? then stop
    else scanPlain context (fold.word c) (mark.skip 1) rest

/-! ## Quoted scalars -/

/-- A scalar between single quotes, where a quote is written twice. -/
def scanSingleQuoted (fold : Fold) (mark : Mark) : Text → Option (Text × Cursor)
  | [] => none
  | '\r' :: '\n' :: rest => scanSingleQuoted (fold.lineBreak '\n') (mark.newLine 2) rest
  | '\'' :: '\'' :: rest => scanSingleQuoted (fold.word '\'') (mark.skip 2) rest
  | c :: rest =>
    if isBlank c then scanSingleQuoted (fold.blank c) (mark.skip 1) rest
    else if c == '\u2028' || c == '\u2029' then
      scanSingleQuoted (fold.lineBreak c) (mark.newLine 1) rest
    else if isBreak c then scanSingleQuoted (fold.lineBreak '\n') (mark.newLine 1) rest
    else if (Cursor.mk mark (c :: rest)).atDocumentIndicator then none
    else if c == '\'' then some (fold.join.value, ⟨mark.skip 1, rest⟩)
    else scanSingleQuoted (fold.word c) (mark.skip 1) rest

/-- What a backslash and one character stand for. -/
def escape? : Char → Option Char
  | '0' => some '\x00'
  | 'a' => some '\x07'
  | 'b' => some '\x08'
  | 't' => some '\t'
  | '\t' => some '\t'
  | 'n' => some '\n'
  | 'v' => some '\x0b'
  | 'f' => some '\x0c'
  | 'r' => some '\r'
  | 'e' => some '\x1b'
  | ' ' => some ' '
  | '"' => some '"'
  | '/' => some '/'
  | '\\' => some '\\'
  | 'N' => some '\u0085'
  | '_' => some '\u00a0'
  | 'L' => some '\u2028'
  | 'P' => some '\u2029'
  | _ => none

/-- How many hexadecimal digits follow a backslash and one character. -/
def escapeWidth? : Char → Option Nat
  | 'x' => some 2
  | 'u' => some 4
  | 'U' => some 8
  | _ => none

/-- A scalar between double quotes, with escapes. The number counts characters of an escape that
are still to be passed over. -/
def scanDoubleQuoted (fold : Fold) (mark : Mark) : Nat → Text → Option (Text × Cursor)
  | _, [] => none
  | n + 1, _ :: rest => scanDoubleQuoted fold (mark.skip 1) n rest
  | 0, '\r' :: '\n' :: rest => scanDoubleQuoted (fold.lineBreak '\n') (mark.newLine 2) 0 rest
  | 0, '\\' :: '\r' :: '\n' :: rest =>
    scanDoubleQuoted fold.join.escapedBreak ((mark.skip 1).newLine 2) 0 rest
  | 0, '\\' :: d :: rest =>
    let fold := fold.join
    if isBreak d then scanDoubleQuoted fold.escapedBreak ((mark.skip 1).newLine 1) 0 rest
    else
      match escape? d, escapeWidth? d with
      | some c, _ => scanDoubleQuoted (fold.word c) (mark.skip 2) 0 rest
      | none, some width =>
        if rest.length < width then none
        else
          match Text.charOfHex? (rest.take width) with
          | some c => scanDoubleQuoted (fold.word c) (mark.skip 2) width rest
          | none => none
      | none, none => none
  | 0, c :: rest =>
    if isBlank c then scanDoubleQuoted (fold.blank c) (mark.skip 1) 0 rest
    else if c == '\u2028' || c == '\u2029' then
      scanDoubleQuoted (fold.lineBreak c) (mark.newLine 1) 0 rest
    else if isBreak c then scanDoubleQuoted (fold.lineBreak '\n') (mark.newLine 1) 0 rest
    else if (Cursor.mk mark (c :: rest)).atDocumentIndicator then none
    else if c == '"' then some (fold.join.value, ⟨mark.skip 1, rest⟩)
    else scanDoubleQuoted (fold.word c) (mark.skip 1) 0 rest

/-! ## Block scalars -/

/-- What becomes of the line breaks at the end of a block. -/
inductive Chomping
  /-- All are dropped. -/
  | strip
  /-- One is kept. -/
  | clip
  /-- All are kept. -/
  | keep
  deriving DecidableEq, Repr

/-- The header of a block: its chomping and, if given, how far it is indented. -/
def blockHeader? (cursor : Cursor) : Option (Chomping × Option Nat × Cursor) :=
  let chomping? : Option Char → Option Chomping
    | some '+' => some .keep
    | some '-' => some .strip
    | _ => none
  let digit? : Option Char → Option Nat
    | some c => if c.isDigit then some (c.toNat - '0'.toNat) else none
    | none => none
  let checked (chomping : Chomping) (digit : Option Nat) (width : Nat) :=
    if digit == some 0 then none else some (chomping, digit, cursor.skip width)
  match chomping? (cursor.peek 0), digit? (cursor.peek 0) with
  | some chomping, _ =>
    match digit? (cursor.peek 1) with
    | some n => checked chomping (some n) 2
    | none => checked chomping none 1
  | none, some n =>
    match chomping? (cursor.peek 1) with
    | some chomping => checked chomping (some n) 2
    | none => checked .clip (some n) 1
  | none, none => some (.clip, none, cursor)

/-- The part of a block that has been read. Texts are kept in reverse. -/
structure Block where
  /-- The style folds lines. -/
  folds : Bool
  /-- The column of the collection that holds the block, plus one. -/
  least : Nat
  /-- The column of the content, once it is known. -/
  indent : Option Nat
  /-- The furthest column of the lines that came before the content. -/
  furthest : Nat := 0
  text : Text := []
  leading : Text := []
  trailing : Text := []
  /-- The line before started with a blank. -/
  leadingBlank : Bool := false
  /-- A line of the content is being read. -/
  inLine : Bool := false

namespace Block

/-- The column of the content, as far as the lines read so far tell. -/
def column (block : Block) : Nat :=
  block.indent.getD (max block.furthest (max block.least 1))

/-- A line of the content starts with a character. -/
def startLine (block : Block) (c : Char) : Block :=
  let folded := block.folds && block.leading.getLast? == some '\n' && !block.leadingBlank &&
    !isBlank c
  let between :=
    if folded then (if block.trailing.isEmpty then [' '] else block.trailing)
    else block.trailing ++ block.leading
  { block with
    text := c :: (between ++ block.text)
    indent := some block.column
    leading := []
    trailing := []
    leadingBlank := isBlank c
    inLine := true }

/-- A line break ends a line, of which the scalar keeps `c`. -/
def lineBreak (block : Block) (c : Char) : Block :=
  if block.inLine then { block with leading := [c], inLine := false }
  else { block with trailing := c :: block.trailing }

def value (block : Block) (chomping : Chomping) : Text :=
  let kept := match chomping with
    | .strip => []
    | .clip => block.leading
    | .keep => block.trailing ++ block.leading
  (kept ++ block.text).reverse

end Block

/-- The lines of a block. Outside a line, spaces up to the column of the content are indentation;
a tab among them is a fault, and anything else to the left of the content ends the block. -/
def scanBlock (block : Block) (mark : Mark) : Text → Option (Block × Cursor)
  | [] => some (block, ⟨mark, []⟩)
  | '\r' :: '\n' :: rest =>
    let block := { block with furthest := max block.furthest mark.column }
    scanBlock (block.lineBreak '\n') (mark.newLine 2) rest
  | c :: rest =>
    if block.inLine then
      if c == '\u2028' || c == '\u2029' then
        scanBlock (block.lineBreak c) (mark.newLine 1) rest
      else if isBreak c then scanBlock (block.lineBreak '\n') (mark.newLine 1) rest
      else scanBlock { block with text := c :: block.text } (mark.skip 1) rest
    else
      let isIndent := block.indent.all (mark.column < ·)
      if isIndent && c == ' ' then scanBlock block (mark.skip 1) rest
      else if isIndent && c == '\t' then none
      else
        let block := { block with furthest := max block.furthest mark.column }
        if c == '\u2028' || c == '\u2029' then
          scanBlock (block.lineBreak c) (mark.newLine 1) rest
        else if isBreak c then scanBlock (block.lineBreak '\n') (mark.newLine 1) rest
        else if mark.column == block.column then
          scanBlock (block.startLine c) (mark.skip 1) rest
        else some (block, ⟨mark, c :: rest⟩)

/-- A block scalar, behind its indicator. The number is the column of the collection that holds
it, or nothing at the top level. -/
def scanBlockScalar (folds : Bool) (parent : Option Nat) (cursor : Cursor) :
    Option (Text × Cursor) := do
  let (chomping, increment, cursor) ← blockHeader? cursor
  let cursor ← cursor.lineEnd?
  let cursor := cursor.skipBreak
  let block : Block :=
    { folds
      least := parent.elim 0 (· + 1)
      indent := increment.map (parent.getD 0 + ·) }
  let (block, cursor) ← scanBlock block cursor.mark cursor.rest
  return (block.value chomping, cursor)

end KeyboardLayout.Yaml
