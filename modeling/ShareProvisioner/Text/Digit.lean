import ShareProvisioner.Text.Blank

/-!
# Decimal digits and numerals

Each script writes its ten decimal digits at consecutive code points, so the
digits of Unicode 14 are given by the code points of their zeros.  A numeral
may mix scripts, may start with a sign, may have single underscores between its
digits and white space around it, but no separator of files, groups, records or units;
it has at most 4300 digits.
-/

namespace ShareProvisioner

namespace CodePoint

def digitZeros : List Nat :=
  [0x30, 0x660, 0x6F0, 0x7C0, 0x966, 0x9E6, 0xA66, 0xAE6, 0xB66, 0xBE6, 0xC66, 0xCE6,
    0xD66, 0xDE6, 0xE50, 0xED0, 0xF20, 0x1040, 0x1090, 0x17E0, 0x1810, 0x1946, 0x19D0,
    0x1A80, 0x1A90, 0x1B50, 0x1BB0, 0x1C40, 0x1C50, 0xA620, 0xA8D0, 0xA900, 0xA9D0, 0xA9F0,
    0xAA50, 0xABF0, 0xFF10, 0x104A0, 0x10D30, 0x11066, 0x110F0, 0x11136, 0x111D0, 0x112F0,
    0x11450, 0x114D0, 0x11650, 0x116C0, 0x11730, 0x118E0, 0x11950, 0x11C50, 0x11D50,
    0x11DA0, 0x16A60, 0x16AC0, 0x16B50, 0x1D7CE, 0x1D7D8, 0x1D7E2, 0x1D7EC, 0x1D7F6,
    0x1E140, 0x1E2F0, 0x1E950, 0x1FBF0]

def digit? (codePoint : CodePoint) : Option Nat :=
  (digitZeros.find? fun first =>
    first ≤ codePoint.toNat && codePoint.toNat < first + 10).map (codePoint.toNat - ·)

end CodePoint

namespace Text

/-- The number that digits with single underscores between them stand for, when
`value` has been read so far and `separable` says whether a digit came last. -/
def digitsValue? (value : Nat) (separable : Bool) : Text → Option Nat
  | [] => if separable then some value else none
  | first :: rest =>
      match first.digit? with
      | some digit => digitsValue? (10 * value + digit) true rest
      | none =>
          if separable && first = CodePoint.char '_' then digitsValue? value false rest
          else none

def maxDigits : Nat := 4300

def natural? (text : Text) : Option Nat :=
  if text.countP (·.digit?.isSome) ≤ maxDigits then digitsValue? 0 false text else none

def isNumeralBlank (codePoint : CodePoint) : Bool :=
  codePoint.isBlank && !(0x1C ≤ codePoint.toNat && codePoint.toNat ≤ 0x1F)

def integer? (text : Text) : Option Int :=
  match trim isNumeralBlank text with
  | .char '-' :: digits => (natural? digits).map (- Int.ofNat ·)
  | .char '+' :: digits => (natural? digits).map Int.ofNat
  | digits => (natural? digits).map Int.ofNat

example : integer? (ofString " -1_0 ") = some (-10) := by decide
example : integer? (ofString "1__0") = none := by decide
example : integer? (ofString "\x1c1") = none := by decide

end Text

end ShareProvisioner
