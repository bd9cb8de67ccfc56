/-!
# Case mappings

A case mapping changes most letters by a fixed distance within a run of the code space and spells
a few letters with several characters. All other characters stay as they are.
-/

namespace KeyboardLayout.Unicode

/-- The letters `first`, `first + step`, …, `last`, each mapped to the one at `distance`. -/
structure CaseRun where
  first : Nat
  last : Nat
  step : Nat
  distance : Int
  deriving Repr, DecidableEq

def CaseRun.holds (r : CaseRun) (n : Nat) : Bool :=
  r.first ≤ n && n ≤ r.last && (n - r.first) % r.step == 0

/-- The image of a code point of the run. -/
def CaseRun.image (r : CaseRun) (n : Nat) : Char :=
  Char.ofNat (n + r.distance).toNat

/-- A full case mapping. -/
structure CaseMap where
  runs : List CaseRun
  spellings : List (Nat × List Nat)

/-- What the mapping makes of one character. -/
def CaseMap.apply (m : CaseMap) (c : Char) : List Char :=
  match m.spellings.lookup c.toNat with
  | some spelling => spelling.map Char.ofNat
  | none =>
    match m.runs.find? (·.holds c.toNat) with
    | some run => [run.image c.toNat]
    | none => [c]

end KeyboardLayout.Unicode
