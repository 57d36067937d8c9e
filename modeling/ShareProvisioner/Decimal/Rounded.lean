import ShareProvisioner.Decimal.Shortest

/-!
# Rounded decimals

A finite number can be written with a given number of digits: so many behind the point,
or so many in all.  The decimal is the one of that form nearest to the number, and of two
the one with the even last digit.
-/

namespace ShareProvisioner

namespace Decimal

/-- The multiple of `10 ^ grid` nearest to `mantissa * 2 ^ exponent`. -/
def nearest (mantissa : Nat) (exponent grid : Int) : Nat :=
  Binary64.roundQuotient (mantissa * Nat.pow 2 exponent.toNat * Nat.pow 10 (-grid).toNat)
    (Nat.pow 2 (-exponent).toNat * Nat.pow 10 grid.toNat)

/-- The decimal nearest to `mantissa * 2 ^ exponent` with one digit and `count` more.
All digits of zero are zeros, the first of them a one's place. -/
def leading (mantissa : Nat) (exponent : Int) (count : Nat) : Decimal :=
  if mantissa = 0 then ⟨0, -count⟩
  else
    let power := scale mantissa exponent - 1
    let digits := nearest mantissa exponent (power - count)
    if digits = Nat.pow 10 (count + 1) then ⟨Nat.pow 10 count, power + 1 - count⟩
    else ⟨digits, power - count⟩

example : (leading 999 0 1).digits = 10 ∧ (leading 999 0 1).exponent = 2 := by decide +kernel

end Decimal

/-- How many digits a number is written with: so many behind the point, one before and so
many behind it together with a power of ten, or so many in all and as few as needed. -/
inductive NumberForm where
  | fixed
  | scientific
  | general
deriving DecidableEq, Repr

namespace NumberForm

def padded (width number : Nat) : Text :=
  let digits := Text.ofNat number
  Binary64.zeros (width - digits.length) ++ digits

/-- The text of a whole part and a fraction.  The point may be left out only before
nothing, and is `kept` even there. -/
def pointed (kept : Bool) (whole fraction : Text) : Text :=
  if fraction.isEmpty && !kept then whole else whole ++ "." ++ fraction

/-- A fraction, without the zeros at its end unless it is `kept` as it is. -/
def trimmed (kept : Bool) (fraction : Text) : Text :=
  if kept then fraction else fraction.trimRight (· = .char '0')

def writeFixed (kept : Bool) (places : Nat) (mantissa : Nat) (exponent : Int) : Text :=
  let digits := padded (places + 1) (Decimal.nearest mantissa exponent (-places))
  let length := digits.length - places
  pointed kept (digits.take length) (digits.drop length)

def writeScientific (kept : Bool) (places : Nat) (mantissa : Nat) (exponent : Int) : Text :=
  let decimal := Decimal.leading mantissa exponent places
  let digits := padded (places + 1) decimal.digits
  pointed kept (digits.take 1) (digits.drop 1) ++ Binary64.powerText (decimal.exponent + places)

/-- Writes so many digits, with a power of ten only where the point would be far from
them. -/
def writeGeneral (kept : Bool) (places : Nat) (mantissa : Nat) (exponent : Int) : Text :=
  let count := places - 1
  let decimal := Decimal.leading mantissa exponent count
  let power := decimal.exponent + count
  let digits := padded (count + 1) decimal.digits
  let parted (length : Nat) := pointed kept (digits.take length) (trimmed kept (digits.drop length))
  if power < -4 || count < power then parted 1 ++ Binary64.powerText power
  else if 0 ≤ power then parted (power.toNat + 1)
  else
    let fraction := Binary64.zeros ((-power).toNat - 1) ++ digits
    pointed kept "0" (trimmed kept fraction)

def write : NumberForm → Bool → Nat → Nat → Int → Text
  | fixed => writeFixed
  | scientific => writeScientific
  | general => writeGeneral

example : fixed.write false 2 5 (-3) = Text.ofString "0.62" := by decide +kernel
example : scientific.write false 1 5 (-3) = Text.ofString "6.2e-01" := by decide +kernel
example : general.write false 6 5 (-3) = Text.ofString "0.625" := by decide +kernel

end NumberForm

end ShareProvisioner
