import KeyboardLayout.Text.Basic

/-!
# Characters of YAML

The classes that the token rules speak of. A missing character, at the end of the text, counts as
a break where a rule asks for "blank or break".
-/

namespace KeyboardLayout.Yaml

def isBlank (c : Char) : Bool :=
  c == ' ' || c == '\t'

/-- A line break: carriage return, line feed, next line, line or paragraph separator. -/
def isBreak (c : Char) : Bool :=
  c == '\r' || c == '\n' || c == '\u0085' || c == '\u2028' || c == '\u2029'

def isBreakEnd : Option Char → Bool
  | some c => isBreak c
  | none => true

def isBlankEnd : Option Char → Bool
  | some c => isBlank c || isBreak c
  | none => true

/-- A character of an anchor or of a tag handle. -/
def isNameChar (c : Char) : Bool :=
  c.isAlphanum || c == '_' || c == '-'

/-- A character that delimits the collections of flow style. -/
def isFlowIndicator (c : Char) : Bool :=
  c == ',' || c == '[' || c == ']' || c == '\x7b' || c == '\x7d'

/-- A character that a document may hold at all. -/
def isAllowed (c : Char) : Bool :=
  let n := c.toNat
  n == 0x09 || n == 0x0A || n == 0x0D || (0x20 ≤ n && n ≤ 0x7E) || n == 0x85 ||
    (0xA0 ≤ n && n ≤ 0xD7FF) || (0xE000 ≤ n && n ≤ 0xFFFD) || 0x10000 ≤ n

def byteOrderMark : Char := '\ufeff'

/-- A place in the text. -/
structure Mark where
  /-- Characters before it. -/
  index : Nat
  /-- Line breaks before it. -/
  line : Nat
  /-- Characters before it on its line. -/
  column : Nat
  deriving DecidableEq, Repr

namespace Mark

def start : Mark :=
  ⟨0, 0, 0⟩

def skip (m : Mark) (n : Nat) : Mark :=
  ⟨m.index + n, m.line, m.column + n⟩

/-- The place behind a line break of `n` characters. -/
def newLine (m : Mark) (n : Nat) : Mark :=
  ⟨m.index + n, m.line + 1, 0⟩

end Mark

/-- The line break at the start of a text: what a scalar keeps of it, how many characters it
takes, and the rest of the text. -/
def lineBreak? : Text → Option (Char × Nat × Text)
  | '\r' :: '\n' :: rest => some ('\n', 2, rest)
  | c :: rest =>
    if c == '\u2028' || c == '\u2029' then some (c, 1, rest)
    else if isBreak c then some ('\n', 1, rest)
    else none
  | [] => none

/-- A text with the place where it starts. -/
structure Cursor where
  mark : Mark
  rest : Text
  deriving Repr

namespace Cursor

/-- The character `n` places ahead. -/
def peek (cursor : Cursor) (n : Nat) : Option Char :=
  cursor.rest[n]?

def skip (cursor : Cursor) (n : Nat) : Cursor :=
  ⟨cursor.mark.skip n, cursor.rest.drop n⟩

/-- The longest run of characters with a property, and the cursor behind it. -/
def takeWhile (cursor : Cursor) (p : Char → Bool) : Text × Cursor :=
  let run := cursor.rest.takeWhile p
  (run, cursor.skip run.length)

/-- The cursor behind the blanks ahead. -/
def skipBlanks (cursor : Cursor) : Cursor :=
  (cursor.takeWhile isBlank).2

/-- The cursor behind the line break ahead, if there is one. -/
def skipBreak (cursor : Cursor) : Cursor :=
  match lineBreak? cursor.rest with
  | some (_, width, rest) => ⟨cursor.mark.newLine width, rest⟩
  | none => cursor

/-- The cursor at the end of the line if only blanks and a comment lie before it. -/
def lineEnd? (cursor : Cursor) : Option Cursor :=
  let cursor := cursor.skipBlanks
  let cursor :=
    if cursor.peek 0 == some '#' then (cursor.takeWhile fun c => !isBreak c).2 else cursor
  if isBreakEnd (cursor.peek 0) then some cursor else none

/-- A line of three times this character starts here, and nothing runs on behind it. -/
def atIndicator (cursor : Cursor) (c : Char) : Bool :=
  cursor.mark.column == 0 && cursor.rest.take 3 == [c, c, c] && isBlankEnd (cursor.peek 3)

/-- The start or the end of a document is marked here. -/
def atDocumentIndicator (cursor : Cursor) : Bool :=
  cursor.atIndicator '-' || cursor.atIndicator '.'

end Cursor

end KeyboardLayout.Yaml
