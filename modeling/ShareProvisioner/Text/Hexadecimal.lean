import ShareProvisioner.Text.CodePoint

/-!
# Hexadecimal digits

Numbers are written with small hexadecimal digits and read with small and capital ones.
-/

namespace ShareProvisioner

/-- The lower-case hexadecimal digits of `number`, with at least `width`. -/
def Text.hexadecimal (width number : Nat) : Text :=
  let digits := (Nat.toDigits 16 number).map CodePoint.char
  List.replicate (width - digits.length) (.char '0') ++ digits

def CodePoint.hexDigit? : CodePoint → Option Nat
  | char digit =>
      if '0' ≤ digit && digit ≤ '9' then some (digit.toNat - 48)
      else if 'a' ≤ digit && digit ≤ 'f' then some (digit.toNat - 87)
      else if 'A' ≤ digit && digit ≤ 'F' then some (digit.toNat - 55)
      else none
  | surrogate _ => none

example : Text.hexadecimal 4 0xFB = Text.ofString "00fb" := by decide
example : CodePoint.hexDigit? 'F' = some 15 ∧ CodePoint.hexDigit? 'g' = none := by decide

end ShareProvisioner
