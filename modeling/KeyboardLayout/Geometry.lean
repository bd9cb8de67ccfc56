import KeyboardLayout.Key
import KeyboardLayout.Level

/-!
# Geometries

The drawing of a physical board. Every row of keys takes three lines of the drawing: a rule, the
line of the shifted symbols and the line of the unshifted ones. Cells are six columns apart.
-/

namespace KeyboardLayout

structure Row where
  /-- The column of the first cell. -/
  offset : Nat
  keys : List Key
  deriving DecidableEq, Repr

namespace Row

/-- The distance between two cells of a row. -/
def stride : Nat := 6

/-- The line of the shifted symbols of the row numbered `j`. -/
def shiftLine (j : Nat) : Nat :=
  1 + 3 * j

/-- The line of the unshifted symbols of the row numbered `j`. -/
def baseLine (j : Nat) : Nat :=
  2 + 3 * j

/-- The column where the pair's symbols of the key numbered `k` stand. Columns are machine words of
64 bits, and a sum that does not fit in one wraps. -/
def column (row : Row) (pair : Pair) (k : Nat) : Nat :=
  (row.offset + pair.columnOffset + k * stride) % UInt64.size

/-- The keys of the row with the columns of their symbols. -/
def cells (row : Row) (pair : Pair) : List (Key × Nat) :=
  row.keys.zipIdx.map fun (key, k) => (key, row.column pair k)

end Row

/-- A named board. -/
structure Geometry where
  name : Text
  /-- The lines of the drawing, with blank cells. -/
  template : List Text
  rows : List Row
  deriving DecidableEq, Repr

namespace Geometry

/-- All keys of the board, row by row. -/
def keys (geometry : Geometry) : List Key :=
  geometry.rows.flatMap (·.keys)

def contains (geometry : Geometry) (key : Key) : Bool :=
  geometry.rows.any fun row => row.keys.contains key

end Geometry

end KeyboardLayout
