import KeyboardLayout.Text.Basic

/-!
# Levels

The six states of shift, AltGr and the layout's own dead key. A drawing shows two levels at a
time: a pair of an unshifted and a shifted one.
-/

namespace KeyboardLayout

/-- A pair of levels that one drawing shows. -/
inductive Pair
  | base | deadKey | altGr
  deriving DecidableEq, Repr

/-- A state of the modifiers. -/
inductive Level
  | base | shift | deadKey | deadKeyShift | altGr | altGrShift
  deriving DecidableEq, Repr

namespace Level

/-- All levels, in the order of the layers. -/
def all : List Level :=
  [.base, .shift, .deadKey, .deadKeyShift, .altGr, .altGrShift]

/-- The number of the level's layer. -/
def index (level : Level) : Fin 6 :=
  ⟨level.ctorIdx, by cases level <;> decide⟩

/-- The level of a layer number. -/
def ofIndex? (i : Nat) : Option Level :=
  all[i]?

/-- The pair that the level belongs to. -/
def pair : Level → Pair
  | base | shift => .base
  | deadKey | deadKeyShift => .deadKey
  | altGr | altGrShift => .altGr

/-- What the user knows the level as. -/
def name : Level → Text
  | base => "base".toList
  | shift => "shift".toList
  | deadKey => "dead key".toList
  | deadKeyShift => "dead key + shift".toList
  | altGr => "AltGr".toList
  | altGrShift => "AltGr + shift".toList

theorem index_inj {a b : Level} (h : a.index = b.index) : a = b := by
  cases a <;> cases b <;> first | rfl | exact absurd h (by decide)

end Level

namespace Pair

def lower : Pair → Level
  | base => .base
  | deadKey => .deadKey
  | altGr => .altGr

def upper : Pair → Level
  | base => .shift
  | deadKey => .deadKeyShift
  | altGr => .altGrShift

/-- How far to the right of the cell's start the pair is drawn: two pairs share one drawing. -/
def columnOffset : Pair → Nat
  | base => 0
  | deadKey | altGr => 2

@[simp] theorem pair_lower (p : Pair) : p.lower.pair = p := by cases p <;> rfl

@[simp] theorem pair_upper (p : Pair) : p.upper.pair = p := by cases p <;> rfl

end Pair

end KeyboardLayout
