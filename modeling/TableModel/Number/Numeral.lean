import TableModel.Number.Basic

/-!
# Numerals

A numeral is a number as it is written: digits, perhaps a fraction, perhaps an exponent. Its value is
taken digit by digit into a significand of 64 bits. A digit that does not fit any more ends the
significand; in the whole part it and its successors still count as powers of ten, in the fraction
they are dropped. A numeral without fraction and exponent whose digits all fit is an integer, unless
it is negative zero or below the least integer of 64 bits. Every other numeral is a binary64 number:
the significand is rounded, and then multiplied or divided by a rounded power of ten, so the result
need not be the number nearest to the numeral.
-/

namespace TableModel

/-- The written parts of a number, each as its digits. -/
structure Numeral where
  negative : Bool
  whole : Text
  fraction : Option Text
  /-- Whether the exponent is negative, and its digits. -/
  exponent : Option (Bool × Text)
  deriving DecidableEq, Repr

namespace Numeral

def digitValue (c : Char) : Nat :=
  c.toNat - '0'.toNat

def digitsValue (digits : Text) : Nat :=
  digits.foldl (fun n c => n * 10 + digitValue c) 0

/-- Appends digits to a significand while it fits 64 bits. The second part counts the digits left out:
the first that does not fit and all after it. -/
def absorb (significand : Nat) : Text → Nat × Nat
  | [] => (significand, 0)
  | c :: rest =>
    let next := significand * 10 + digitValue c
    if next < UInt64.size then absorb next rest else (significand, rest.length + 1)

/-- Divides by a power of ten, in steps of the largest power that the format holds. -/
def shrink (x : Binary64) (k : Nat) : Binary64 :=
  if k ≤ 308 then x.div (.powerOfTen k)
  else if x.significand = 0 then x
  else shrink (x.div (.powerOfTen 308)) (k - 308)
termination_by k

/-- The significand times a power of ten, or nothing if that is out of range. -/
def scale? (significand : Nat) : Int → Option Binary64
  | .ofNat k =>
    if k ≤ 308 then
      let x := (Binary64.ofNat significand).mul (.powerOfTen k)
      if x.fits then some x else none
    else if significand = 0 then some .zero
    else none
  | .negSucc k => some (shrink (.ofNat significand) (k + 1))

/-- The greatest exponent that is taken at its value. -/
def greatestExponent : Nat := 2147483647

/-- The binary64 number of a significand, a power of ten and a written exponent. An exponent beyond
the greatest one leaves zero if it is negative or the significand is zero. -/
def real? (negative : Bool) (significand : Nat) (power : Int) :
    Option (Bool × Text) → Option Number
  | none => (scale? significand power).map (.real negative)
  | some (below, digits) =>
    let written := digitsValue digits
    if written ≤ greatestExponent then
      (scale? significand (if below then power - written else power + written)).map
        (.real negative)
    else if below || significand == 0 then some (.real negative .zero)
    else none

def integer (negative : Bool) (significand : Nat) : Number :=
  if !negative then .integer significand
  else if significand = 0 ∨ UInt64.size / 2 < significand then .real true (.ofNat significand)
  else .integer (-significand)

/-- The value of a numeral, or nothing if it is out of range. -/
def value? (x : Numeral) : Option Number :=
  let (significand, dropped) := absorb 0 x.whole
  if x.fraction = none ∧ x.exponent = none ∧ dropped = 0 then
    some (integer x.negative significand)
  else
    let fraction := x.fraction.getD []
    let (significand, cut) := absorb significand fraction
    real? x.negative significand (dropped - (fraction.length - cut : Nat)) x.exponent

end Numeral

end TableModel
