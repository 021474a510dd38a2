import TableModel.Text.Basic

/-!
# Runs of characters

A property of characters is kept as a list of runs. A run holds every code point between two ends, or
every second one where a property changes from one code point to the next, as it does in alphabets
that list a capital letter just before its small one.
-/

namespace TableModel

/-- Every `step`-th code point from `first` to `last`. -/
structure CharRun where
  first : Nat
  last : Nat
  step : Nat

namespace CharRun

def holds (run : CharRun) (code : Nat) : Bool :=
  run.first ≤ code && code ≤ run.last && (code - run.first) % run.step == 0

def anyHolds (runs : List CharRun) (c : Char) : Bool :=
  runs.any (·.holds c.toNat)

/-- The character at the distance that the first run holding `c` gives, and `c` itself if no run
holds it. -/
def shift (runs : List (CharRun × Int)) (c : Char) : Char :=
  match runs.find? (·.1.holds c.toNat) with
  | some (_, distance) => Char.ofNat (c.toNat + distance).toNat
  | none => c

end CharRun

end TableModel
