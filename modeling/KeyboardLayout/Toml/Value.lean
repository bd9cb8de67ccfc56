import KeyboardLayout.Table
import KeyboardLayout.Text.Basic

/-!
# TOML values

The values of a TOML document, and how the statements of a document build its tables. A table
remembers how it came about, because that decides what may still be added to it: a header opens a
table at most once, dotted keys add to tables that only dotted keys made, and an inline table is
closed.
-/

namespace KeyboardLayout.Toml

/-- How a table came about. -/
inductive Origin
  /-- By a header of its own. -/
  | header
  /-- As a step on the way to the table of a header. -/
  | implied
  /-- As a step on the way to a dotted key. -/
  | dotted
  /-- Written inline. -/
  | inline
  deriving DecidableEq, Repr

inductive Value where
  | text (t : Text)
  | bool (b : Bool)
  | integer (i : Int)
  /-- A floating-point number, and whether it overflows. -/
  | float (overflows : Bool)
  | date
  /-- An array; the elements of some arrays are the tables of headers. -/
  | array (ofHeaders : Bool) (items : List Value)
  | table (origin : Origin) (fields : List (Text × Value))
  deriving Repr

abbrev Fields := Table Text Value

/-- The table that is open under a value: the value itself, or the last table of an array of
headers. -/
def Value.openTable? : Value → Option (Origin × Fields)
  | .table origin fields => if origin = .inline then none else some (origin, fields)
  | .array true items =>
    match items.getLast? with
    | some (.table origin fields) => some (origin, fields)
    | _ => none
  | _ => none

/-- Dotted keys may lead through the value: a table without a header, or the last one of an array of
headers. -/
def Value.takesDotted : Value → Bool
  | .table origin _ => origin == .dotted || origin == .implied
  | _ => true

/-- The value with other fields in its open table. -/
def Value.withFields (fields : Fields) : Value → Value
  | .table origin _ => .table origin fields
  | .array true items =>
    match items.getLast? with
    | some (.table origin _) => .array true (items.dropLast ++ [.table origin fields])
    | _ => .array true items
  | value => value

namespace Fields

/-- Writes a value under a dotted key. -/
def assign (value : Value) : (path : List Text) → Fields → Option Fields
  | [], _ => none
  | [key], fields =>
    if (Table.get? key fields).isSome then none else some (fields ++ [(key, value)])
  | key :: next :: rest, fields =>
    match Table.get? key fields with
    | none => do
      let inner ← assign value (next :: rest) []
      return fields ++ [(key, .table .dotted inner)]
    | some known => do
      let (origin, inner) ← known.openTable?
      if rest.isEmpty && origin != .dotted then none
      if !known.takesDotted then none
      let inner ← assign value (next :: rest) inner
      return Table.put key (known.withFields inner) fields

/-- Changes the table that headers name by a path, making the tables on the way. -/
def atPath (change : Fields → Option Fields) : (path : List Text) → Fields → Option Fields
  | [], fields => change fields
  | key :: rest, fields =>
    match Table.get? key fields with
    | none => do
      let inner ← atPath change rest []
      return fields ++ [(key, .table .implied inner)]
    | some known => do
      let (_, inner) ← known.openTable?
      let inner ← atPath change rest inner
      return Table.put key (known.withFields inner) fields

/-- Opens the table of a header under its last key. -/
def openHeader (key : Text) (fields : Fields) : Option Fields :=
  match Table.get? key fields with
  | none => some (fields ++ [(key, .table .header [])])
  | some (.table .implied inner) => some (Table.put key (.table .header inner) fields)
  | some _ => none

/-- Opens one more table of an array of headers under its last key. -/
def openElement (key : Text) (fields : Fields) : Option Fields :=
  match Table.get? key fields with
  | none => some (fields ++ [(key, .array true [.table .header []])])
  | some (.array true items) =>
    some (Table.put key (.array true (items ++ [.table .header []])) fields)
  | some _ => none

/-- Opens a table at the end of a path. -/
def openAt (make : Text → Fields → Option Fields) (path : List Text) (fields : Fields) :
    Option Fields := do
  let key ← path.getLast?
  atPath (make key) path.dropLast fields

end Fields

end KeyboardLayout.Toml
