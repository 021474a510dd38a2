import TableModel.Number.Binary64
import TableModel.Text.Basic

/-!
# Shortest decimal text

A binary64 number is written with the fewest digits that read back as the same number, and with those
nearest to it where several would do. The numbers that read back as `x` lie between the midpoints to
the neighbours of `x`, the midpoints included when the significand of `x` is even. So the text is found
on the coarsest decimal grid that has a point in this interval: `search` goes from coarse grids to fine
ones and looks at the two points next to `x`. The finest grid holds `x` itself, since a power of two is
a whole number of tenths, hundredths and so on.
-/

namespace TableModel

namespace Binary64

/-- A number on its finest decimal grid, with the interval that rounds to it, four times as large. The
number is `value * 10 ^ exponent`, and `low / 4` and `high / 4` are the ends in the same unit. -/
structure Interval where
  value : Nat
  low : Nat
  high : Nat
  closed : Bool
  exponent : Int

/-- The interval of a number other than zero. Below a power of two the neighbours are twice as near. -/
def interval (x : Binary64) : Interval :=
  let (ulp, exponent) : Nat × Int :=
    match x.exponent with
    | .ofNat k => (Nat.pow 2 k, 0)
    | .negSucc k => (Nat.pow 5 (k + 1), -(k + 1 : Nat))
  let value := x.significand * ulp
  let below :=
    if x.significand = leastSignificand ∧ x.exponent ≠ leastExponent then ulp else 2 * ulp
  { value, low := 4 * value - below, high := 4 * value + 2 * ulp,
    closed := x.significand % 2 == 0, exponent }

namespace Interval

def contains (i : Interval) (n : Nat) : Bool :=
  if i.closed then i.low ≤ 4 * n && 4 * n ≤ i.high else i.low < 4 * n && 4 * n < i.high

/-- The multiple of `10 ^ k` in the interval that is nearest to the value, divided by `10 ^ k`; of two
equally near ones the even one. -/
def pick? (i : Interval) (k : Nat) : Option Nat :=
  let unit := Nat.pow 10 k
  let below := i.value / unit
  let distance := 2 * (i.value - below * unit)
  match i.contains (below * unit), i.contains ((below + 1) * unit) with
  | false, false => none
  | true, false => some below
  | false, true => some (below + 1)
  | true, true =>
    if distance < unit then some below
    else if distance > unit then some (below + 1)
    else if below % 2 = 0 then some below else some (below + 1)

/-- The first hit on the grids of `10 ^ k`, `10 ^ (k - 1)` and so on, with its grid. -/
def search (i : Interval) : Nat → Nat × Nat
  | 0 => (i.value, 0)
  | k + 1 =>
    match i.pick? (k + 1) with
    | some digits => (digits, k + 1)
    | none => i.search k

end Interval

/-- The digits of a positive number and the power of ten that they count. -/
def shortest (x : Binary64) : Text × Int :=
  let i := x.interval
  let (digits, k) := i.search (Text.ofNat i.value).length
  (Text.ofNat digits, i.exponent + k)

/-- The text of digits that count `10 ^ exponent`. It is positional, with at least one digit after the
point, as long as the first digit counts a power of ten from -5 to 15, and scientific otherwise. -/
def layout (digits : Text) (exponent : Int) : Text :=
  let leading := exponent + digits.length - 1
  if -5 ≤ leading ∧ leading ≤ 15 then
    if 0 ≤ exponent then digits ++ List.replicate exponent.toNat '0' ++ ".0"
    else if 0 ≤ leading then
      digits.take (leading + 1).toNat ++ "." ++ digits.drop (leading + 1).toNat
    else "0." ++ List.replicate (-leading - 1).toNat '0' ++ digits
  else
    let fraction : Text := if digits.length ≤ 1 then "" else '.' :: digits.drop 1
    let sign : Text := if leading < 0 then "-" else "+"
    digits.take 1 ++ fraction ++ "e" ++ sign ++ Text.ofNat leading.natAbs

def text (x : Binary64) : Text :=
  if x.significand = 0 then "0.0"
  else
    let (digits, exponent) := x.shortest
    layout digits exponent

end Binary64

end TableModel
