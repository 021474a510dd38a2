/-!
# Binary64 numbers

A finite number of the binary64 format without its sign: a significand below `2 ^ 53` times a power
of two. Every operation takes the exact quotient of two natural numbers and rounds it once, to the
nearest number of the format and to the even significand in a tie. No operation here bounds the
exponent from above, so that a result too large for the format is still told apart from one that fits.
-/

namespace TableModel

/-- The number `significand * 2 ^ exponent`. The significand is below `2 ^ 53`, and below `2 ^ 52` only
at the least exponent. -/
structure Binary64 where
  significand : Nat
  exponent : Int
  deriving DecidableEq, Repr

namespace Binary64

/-- The exponent of the smallest positive number. -/
def leastExponent : Int := -1074

/-- The exponent of the largest numbers. -/
def greatestExponent : Int := 971

/-- The least significand above the least exponent, `2 ^ 52`. -/
def leastSignificand : Nat := 4503599627370496

def zero : Binary64 := ⟨0, leastExponent⟩

/-- Whether the number is not too large for the format. -/
def fits (x : Binary64) : Bool :=
  x.exponent ≤ greatestExponent

/-- The quotient of two natural numbers rounded to a natural number, a half to the even one. -/
def divideToEven (numerator denominator : Nat) : Nat :=
  let floor := numerator / denominator
  let twice := 2 * (numerator % denominator)
  if twice < denominator then floor
  else if twice > denominator then floor + 1
  else if floor % 2 = 0 then floor else floor + 1

/-- A quotient divided by `2 ^ exponent`, again as a quotient. -/
def unscale (numerator denominator : Nat) : Int → Nat × Nat
  | .ofNat k => (numerator, denominator * Nat.pow 2 k)
  | .negSucc k => (numerator * Nat.pow 2 (k + 1), denominator)

/-- The exponent at which the floor of a quotient has 53 binary digits, or the least one. -/
def exponentOf (numerator denominator : Nat) : Int :=
  let guess : Int := numerator.log2 - denominator.log2 - 52
  let (n, d) := unscale numerator denominator guess
  let exponent := if n / d < leastSignificand then guess - 1 else guess
  max exponent leastExponent

/-- The number nearest to the quotient of two natural numbers. -/
def nearest (numerator denominator : Nat) : Binary64 :=
  if numerator = 0 then zero
  else
    let exponent := exponentOf numerator denominator
    let (n, d) := unscale numerator denominator exponent
    let significand := divideToEven n d
    if significand = 2 * leastSignificand then ⟨leastSignificand, exponent + 1⟩
    else ⟨significand, exponent⟩

def quotient (x : Binary64) : Nat × Nat :=
  match x.exponent with
  | .ofNat k => (x.significand * Nat.pow 2 k, 1)
  | .negSucc k => (x.significand, Nat.pow 2 (k + 1))

def ofNat (n : Nat) : Binary64 :=
  nearest n 1

def mul (x y : Binary64) : Binary64 :=
  nearest (x.quotient.1 * y.quotient.1) (x.quotient.2 * y.quotient.2)

/-- The quotient, rounded. The divisor is not zero. -/
def div (x y : Binary64) : Binary64 :=
  nearest (x.quotient.1 * y.quotient.2) (x.quotient.2 * y.quotient.1)

def powerOfTen (k : Nat) : Binary64 :=
  ofNat (Nat.pow 10 k)

end Binary64

end TableModel
