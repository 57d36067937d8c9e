import ShareProvisioner.Decimal.Rounded
import ShareProvisioner.Format.Directive
import ShareProvisioner.Json.Value

/-!
# Filling a text with values

Values have names, and a directive without a name is given all of them as one object, but
only once.  Letters for texts show any value; those for integers and for decimals show
numbers only; the one for characters shows a text of one code point or the code point of a
number.
-/

namespace ShareProvisioner.Format

/-! ## Layout -/

/-- A text that may be stretched: a sign and a mark for the base stay in front of the
zeros that fill it up. -/
structure Numeral where
  negative : Bool := false
  baseMark : Text := []
  body : Text
deriving DecidableEq, Repr

def maxLength : Nat := Nat.pow 2 30

def Flags.sign (flags : Flags) (negative : Bool) : Text :=
  if negative then "-" else if flags.signed then "+" else if flags.spaced then " " else []

/-- So much of the fill as the width asks for beyond the length. -/
def filling (mark : Char) (width length : Nat) : Text :=
  List.replicate (width - length) mark

def layText (flags : Flags) (width : Nat) (text : Text) : Text :=
  let blanks := filling ' ' width text.length
  if flags.leftAligned then text ++ blanks else blanks ++ text

def layNumeral (flags : Flags) (width : Nat) (numeral : Numeral) : Text :=
  let front := flags.sign numeral.negative ++ numeral.baseMark
  let length := front.length + numeral.body.length
  if flags.leftAligned then front ++ numeral.body ++ filling ' ' width length
  else if flags.zeroFilled then front ++ filling '0' width length ++ numeral.body
  else filling ' ' width length ++ front ++ numeral.body

example : layNumeral { zeroFilled := true } 6 { negative := true, body := Text.ofString "42" } =
    Text.ofString "-00042" := by decide

/-! ## Kinds of texts -/

structure Base where
  radix : Nat
  mark : Text := []
  capital : Bool := false
deriving DecidableEq, Repr

inductive Style where
  | shown
  | quoted
  | escaped
  | integer (base : Base)
  | decimal (form : NumberForm) (capital : Bool)
  | character
deriving DecidableEq, Repr

def Style.ofLetter? : CodePoint → Option Style
  | .char 's' => some shown
  | .char 'r' => some quoted
  | .char 'a' => some escaped
  | .char 'd' | .char 'i' | .char 'u' => some (integer { radix := 10 })
  | .char 'o' => some (integer { radix := 8, mark := "0o" })
  | .char 'x' => some (integer { radix := 16, mark := "0x" })
  | .char 'X' => some (integer { radix := 16, mark := "0X", capital := true })
  | .char 'e' => some (decimal .scientific false)
  | .char 'E' => some (decimal .scientific true)
  | .char 'f' => some (decimal .fixed false)
  | .char 'F' => some (decimal .fixed true)
  | .char 'g' => some (decimal .general false)
  | .char 'G' => some (decimal .general true)
  | .char 'c' => some character
  | _ => none

def inAscii (codePoint : CodePoint) : Text :=
  if codePoint.toNat < 0x80 then [codePoint]
  else if codePoint.toNat < 0x100 then "\\x" ++ Text.hexadecimal 2 codePoint.toNat
  else if codePoint.toNat < 0x10000 then "\\u" ++ Text.hexadecimal 4 codePoint.toNat
  else "\\U" ++ Text.hexadecimal 8 codePoint.toNat

/-- The integer that a number is without its fraction.  Only in base ten may there be
one. -/
def wholePart (radix : Nat) : Json → Except Fault Int
  | .integer value => .ok value
  | .bool value => .ok (if value then 1 else 0)
  | .float value =>
      if radix ≠ 10 then .error .wrongKind
      else match value with
        | .finite negative mantissa exponent =>
            let magnitude : Int := Int.ofNat
              (mantissa * Nat.pow 2 exponent.toNat / Nat.pow 2 (-exponent).toNat)
            .ok (if negative then -magnitude else magnitude)
        | .infinity _ => .error .outOfRange
        | .nan => .error .notNumber
  | _ => .error .wrongKind

def nearestFloat : Json → Except Fault Binary64
  | .float value => .ok value
  | .bool value => .ok (if value then .ofFraction false 1 1 else .finite false 0 0)
  | .integer value =>
      if value = 0 then .ok (.finite false 0 0)
      else match Binary64.ofFraction (value < 0) value.natAbs 1 with
        | .infinity _ => .error .outOfRange
        | float => .ok float
  | _ => .error .wrongKind

def integerNumeral (base : Base) (alternate : Bool) (precision : Nat) (value : Int) : Numeral :=
  let digits := (Nat.toDigits base.radix value.natAbs).map CodePoint.char
  { negative := value < 0
    baseMark := if alternate then base.mark else []
    body := filling '0' precision digits.length
      ++ (if base.capital then digits.map .upper else digits) }

def decimalNumeral (form : NumberForm) (alternate : Bool) (precision : Nat) : Binary64 → Numeral
  | .finite negative mantissa exponent =>
      { negative, body := form.write alternate precision mantissa exponent }
  | .infinity negative => { negative, body := "inf" }
  | .nan => { body := "nan" }

def characterOf : Json → Except Fault CodePoint
  | .text [codePoint] => .ok codePoint
  | .integer (.ofNat number) =>
      match CodePoint.ofNat? number with
      | some codePoint => .ok codePoint
      | none => .error .outOfRange
  | .integer (.negSucc _) => .error .outOfRange
  | .bool value => .ok (.char (if value then '\x01' else '\x00'))
  | _ => .error .wrongKind

def Style.apply (flags : Flags) (width : Nat) (precision : Option Nat) (value : Json) :
    Style → Except Fault Text
  | shown => .ok (layText flags width (value.display.take (precision.getD value.display.length)))
  | quoted => .ok (layText flags width (value.quoted.take (precision.getD value.quoted.length)))
  | escaped =>
      let text := value.quoted.flatMap inAscii
      .ok (layText flags width (text.take (precision.getD text.length)))
  | integer base => do
      let whole ← wholePart base.radix value
      if maxPrecision - 3 < precision.getD 0 then throw .outOfRange
      if maxLength < precision.getD 0 then throw .tooLong
      return layNumeral flags width (integerNumeral base flags.alternate (precision.getD 0) whole)
  | decimal form capital => do
      let number ← nearestFloat value
      if maxLength < precision.getD 0 then throw .tooLong
      let numeral := decimalNumeral form flags.alternate (precision.getD 6) number
      return layNumeral flags width
        (if capital then { numeral with body := numeral.body.upper } else numeral)
  | character => do return layText flags width [← characterOf value]

/-! ## Filling -/

/-- The named values, and the value that the next directive without a name is given. -/
structure Values where
  named : Entries Text Json
  next : Option Json

def Values.take (values : Values) : Except Fault (Json × Values) :=
  match values.next with
  | some value => .ok (value, { values with next := none })
  | none => .error .noValue

/-- The value of a width or a precision that is taken from a value between two bounds. -/
def takenNumber (least greatest : Int) : Json → Except Fault Int
  | .integer value =>
      if value < least || greatest < value then .error .outOfRange else .ok value
  | .bool value => .ok (if value then 1 else 0)
  | _ => .error .wrongKind

def Values.select (values : Values) : Option Text → Except Fault Values
  | none => .ok values
  | some name =>
      match values.named.find? name with
      | some value => .ok { values with next := some value }
      | none => .error (.missing name)

/-- The width of a directive.  One less than zero is that of a text to the left. -/
def Values.width (values : Values) (flags : Flags) : Size → Except Fault (Nat × Flags × Values)
  | .open => .ok (0, flags, values)
  | .fixed number => .ok (number, flags, values)
  | .taken => do
      let (value, values) ← values.take
      let number ← takenNumber (-(maxWidth : Int) - 1) maxWidth value
      return (number.natAbs, { flags with leftAligned := flags.leftAligned || number < 0 }, values)

/-- The precision of a directive.  One less than zero is zero. -/
def Values.precision (values : Values) : Size → Except Fault (Option Nat × Values)
  | .open => .ok (none, values)
  | .fixed number => .ok (some number, values)
  | .taken => do
      let (value, values) ← values.take
      let number ← takenNumber (-(maxPrecision : Int) - 1) maxPrecision value
      return (some number.toNat, values)

def Values.fillDirective (values : Values) (directive : Directive) (ending : Ending) :
    Except Fault (Text × Values) := do
  let values ← values.select directive.name
  let (width, flags, values) ← values.width directive.flags directive.width
  let (precision, values) ← values.precision directive.precision
  match ending with
  | .broken fault => throw fault
  | .letter letter index =>
      let (value, values) ← values.take
      match Style.ofLetter? letter with
      | none => throw (.unsupported letter index)
      | some style =>
          if maxLength < width then
            discard (style.apply {} 0 precision value)
            throw .tooLong
          return (← style.apply flags width precision value, values)

def Values.fill (values : Values) : List Part → Except Fault Text
  | [] => .ok []
  | .literal codePoint :: rest => (values.fill rest).map (codePoint :: ·)
  | .broken fault :: _ => .error fault
  | .directive directive ending :: rest =>
      match values.fillDirective directive ending with
      | .error fault => .error fault
      | .ok (text, values) => (values.fill rest).map (text ++ ·)

def fill (named : Entries Text Json) (text : Text) : Except Fault Text :=
  Values.fill { named, next := some (.object named) } (parts text)

example : fill [("a", .integer 42), ("b", .text (Text.ofString "x"))]
    (Text.ofString "100%% %(a)#06x %(b)-3r|") = .ok (Text.ofString "100% 0x002a 'x'|") := by
  rfl

end ShareProvisioner.Format
