/-!
# Binary floating point numbers

A finite number of the 64-bit format is a signed multiple of a power of two: its
mantissa has at most 53 bits, and exactly 53 unless its exponent is the least one.
The numbers here are exact, so that equality is equality of representations.
-/

namespace ShareProvisioner

/-- A number of the 64-bit binary format.  Finite ones are `mantissa * 2 ^ exponent`
with the given sign. -/
inductive Binary64 where
  | finite (negative : Bool) (mantissa : Nat) (exponent : Int)
  | infinity (negative : Bool)
  | nan
deriving DecidableEq, Repr

namespace Binary64

def leastExponent : Int := -1074

def greatestExponent : Int := 971

def isZero : Binary64 → Bool
  | finite _ mantissa _ => mantissa = 0
  | _ => false

/-- The quotient rounded to the nearest integer, a half to the even one. -/
def roundQuotient (numerator denominator : Nat) : Nat :=
  let quotient := numerator / denominator
  match compare (2 * (numerator % denominator)) denominator with
  | .lt => quotient
  | .gt => quotient + 1
  | .eq => if quotient % 2 = 0 then quotient else quotient + 1

/-- The number nearest to a positive fraction, an exact half going to the even
mantissa.  The exponent is chosen so that the mantissa gets 53 bits, or is the least
one; rounding up to the next power of two adds one to it. -/
def ofFraction (negative : Bool) (numerator denominator : Nat) : Binary64 :=
  let scaled (exponent : Int) : Nat × Nat :=
    (numerator * Nat.pow 2 (-exponent).toNat, denominator * Nat.pow 2 exponent.toNat)
  let estimate : Int := (Nat.log2 numerator : Int) - Nat.log2 denominator - 52
  let (top, bottom) := scaled estimate
  let exponent := max leastExponent (if top / bottom < Nat.pow 2 52 then estimate - 1 else estimate)
  let (top, bottom) := scaled exponent
  let mantissa := roundQuotient top bottom
  let (mantissa, exponent) :=
    if mantissa = Nat.pow 2 53 then (Nat.pow 2 52, exponent + 1) else (mantissa, exponent)
  if greatestExponent < exponent then infinity negative else finite negative mantissa exponent

/-- The number nearest to `digits * 10 ^ exponent`.  Beyond the range of the format,
which spans fewer than 400 powers of ten on either side, the power is not computed. -/
def ofDecimal (negative : Bool) (digits : Nat) (exponent : Int) : Binary64 :=
  let length : Int := (Nat.toDigits 10 digits).length
  if digits = 0 || length + exponent < -400 then finite negative 0 leastExponent
  else if 400 < length + exponent then infinity negative
  else ofFraction negative (digits * Nat.pow 10 exponent.toNat) (Nat.pow 10 (-exponent).toNat)

example : ofDecimal false 1 (-1) = finite false 7205759403792794 (-56) := by decide +kernel
example : ofDecimal false 9007199254740993 0 = finite false 4503599627370496 1 := by decide +kernel

end Binary64

end ShareProvisioner
