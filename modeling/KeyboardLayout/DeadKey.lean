import KeyboardLayout.Text.Basic

/-!
# Dead keys

A dead key types nothing by itself: it changes what the next key types. Its table has two columns,
and a character composes with the entry beside its first occurrence in the first column.
-/

namespace KeyboardLayout

/-- Where a dead key has its table from. -/
inductive Compose
  /-- The table is fixed. -/
  | table
  /-- The table pairs the base levels of the layout with its dead-key levels. -/
  | layout
  deriving DecidableEq, Repr

structure DeadKey where
  /-- The character that stands for it in drawings, mostly a combining mark. -/
  marker : Char
  name : Text
  /-- What previews and web keymaps show. -/
  glyph : Char
  /-- Its XKB keysym. -/
  xkbSymbol : Text
  /-- What it types before a space. -/
  altSpace : Char
  /-- What it types after itself. -/
  altSelf : Char
  compose : Compose
  /-- The characters it combines with. -/
  base : List Char
  /-- What they become, in the same order. -/
  alt : List Char
  deriving DecidableEq, Repr

namespace DeadKey

/-- What the character becomes after the dead key. -/
def result? (dk : DeadKey) (c : Char) : Option Char :=
  (dk.base.findIdx? (· == c)).bind (dk.alt[·]?)

/-- The character occurs in the first column. -/
def combinesWith (dk : DeadKey) (c : Char) : Bool :=
  dk.base.contains c

/-- The rows of the table. -/
def pairs (dk : DeadKey) : List (Char × Char) :=
  dk.base.zip dk.alt

/-- The table comes from the layout. -/
def isLayoutDefined (dk : DeadKey) : Bool :=
  dk.compose == .layout

/-- The dead key with another table. -/
def withPairs (dk : DeadKey) (pairs : List (Char × Char)) : DeadKey :=
  { dk with base := pairs.map (·.1), alt := pairs.map (·.2) }

/-- The dead key with those rows of its table whose first character is kept. -/
def keepBases (dk : DeadKey) (keep : Char → Bool) : DeadKey :=
  dk.withPairs (dk.pairs.filter fun row => keep row.1)

@[simp] theorem pairs_withPairs (dk : DeadKey) (rows : List (Char × Char)) :
    (dk.withPairs rows).pairs = rows := by
  induction rows with
  | nil => rfl
  | cons row rest ih => simpa [withPairs, pairs] using ih

@[simp] theorem pairs_keepBases (dk : DeadKey) (keep : Char → Bool) :
    (dk.keepBases keep).pairs = dk.pairs.filter fun row => keep row.1 :=
  pairs_withPairs dk _

end DeadKey

end KeyboardLayout
