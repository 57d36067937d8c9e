import ShareProvisioner.Decimal.Binary64
import ShareProvisioner.Text.CodePoint

/-!
# Shortest decimals

A finite number is shown by the fewest decimal digits that are nearer to it than to
any other number of its format; of several such decimals the one closest to it.
-/

namespace ShareProvisioner

/-- The decimal `digits * 10 ^ exponent`. -/
structure Decimal where
  digits : Nat
  exponent : Int
deriving DecidableEq, Repr

namespace Decimal

def compareScaled (left : Nat) (tens : Int) (right : Nat) (twos : Int) : Ordering :=
  compare (left * Nat.pow 10 tens.toNat * Nat.pow 2 (-twos).toNat)
    (right * Nat.pow 2 twos.toNat * Nat.pow 10 (-tens).toNat)

/-- Whether the decimal lies among the reals that round to `mantissa * 2 ^ exponent`.
The ends lie halfway to the neighbours, and belong to the range if the mantissa is
even; the neighbour below a power of two is only half as far away. -/
def readsBack (decimal : Decimal) (mantissa : Nat) (exponent : Int) : Bool :=
  let narrow := mantissa = Nat.pow 2 52 && Binary64.leastExponent < exponent
  let low := if narrow then 4 * mantissa - 1 else 4 * mantissa - 2
  let above := compareScaled decimal.digits decimal.exponent low (exponent - 2)
  let below := compareScaled decimal.digits decimal.exponent (4 * mantissa + 2) (exponent - 2)
  let ends := mantissa % 2 = 0
  (above = .gt || (ends && above = .eq)) && (below = .lt || (ends && below = .eq))

def withoutZeros (decimal : Decimal) : Nat → Decimal
  | 0 => decimal
  | count + 1 =>
      if decimal.digits % 10 = 0 && decimal.digits ≠ 0 then
        withoutZeros ⟨decimal.digits / 10, decimal.exponent + 1⟩ count
      else decimal

/-- The better of the two decimals next to `mantissa * 2 ^ exponent` among the
multiples of `10 ^ grid`, if one of them reads back. -/
def onGrid? (mantissa : Nat) (exponent grid : Int) : Option Decimal :=
  let numerator := mantissa * Nat.pow 2 exponent.toNat * Nat.pow 10 (-grid).toNat
  let denominator := Nat.pow 2 (-exponent).toNat * Nat.pow 10 grid.toNat
  let down : Decimal := ⟨numerator / denominator, grid⟩
  let up : Decimal := ⟨numerator / denominator + 1, grid⟩
  let isNear (decimal : Decimal) := readsBack decimal mantissa exponent
  match isNear down && down.digits ≠ 0, isNear up with
  | true, true =>
      match compare (2 * numerator) ((down.digits + up.digits) * denominator) with
      | .lt => some down
      | .gt => some up
      | .eq => some (if down.digits % 2 = 0 then down else up)
  | true, false => some down
  | false, true => some up
  | false, false => none

/-- The least power of ten above `mantissa * 2 ^ exponent`, found from an estimate
that is at most one too low. -/
def scale (mantissa : Nat) (exponent : Int) : Int :=
  let estimate : Int := ((Nat.log2 mantissa : Int) + exponent) * 30103 / 100000
  if compareScaled 1 estimate mantissa exponent = .gt then estimate
  else if compareScaled 1 (estimate + 1) mantissa exponent = .gt then estimate + 1
  else estimate + 2

/-- The shortest decimal of a positive number: the first hit on ever finer grids.
Seventeen digits tell any two numbers apart. -/
def shortest (mantissa : Nat) (exponent : Int) : Decimal :=
  let top := scale mantissa exponent
  let found := (List.range 17).findSome? fun (count : Nat) =>
    onGrid? mantissa exponent (top - (count + 1))
  let exact : Decimal :=
    ⟨mantissa * Nat.pow 2 exponent.toNat * Nat.pow 5 (-exponent).toNat, min exponent 0⟩
  withoutZeros (found.getD exact) 20

end Decimal

namespace Binary64

def zeros (count : Nat) : Text :=
  List.replicate count '0'

/-- A power of ten behind the digits that it belongs to: signed, and with at least two
digits. -/
def powerText (power : Int) : Text :=
  let digits := Text.ofNat power.natAbs
  (if power < 0 then Text.ofString "e-" else "e+") ++ zeros (2 - digits.length) ++ digits

/-- The layout of a decimal: the point stands where it belongs as long as the leading
digit has an exponent from -4 to 15, and a whole number keeps one zero behind it;
otherwise it stands after the leading digit and the power of ten follows. -/
def layout (decimal : Decimal) : Text :=
  let digits := Text.ofNat decimal.digits
  let leading : Int := decimal.exponent + digits.length - 1
  if -4 ≤ leading && leading < 16 then
    if 0 ≤ decimal.exponent then digits ++ zeros decimal.exponent.toNat ++ ".0"
    else if 0 ≤ leading then
      digits.take (leading.toNat + 1) ++ "." ++ digits.drop (leading.toNat + 1)
    else "0." ++ zeros ((-leading).toNat - 1) ++ digits
  else
    let fraction : Text := if digits.length = 1 then [] else '.' :: digits.drop 1
    digits.take 1 ++ fraction ++ powerText leading

def display : Binary64 → Text
  | finite negative mantissa exponent =>
      let magnitude : Text :=
        if mantissa = 0 then "0.0" else layout (Decimal.shortest mantissa exponent)
      if negative then '-' :: magnitude else magnitude
  | infinity negative => if negative then "-inf" else "inf"
  | nan => "nan"

end Binary64

end ShareProvisioner
