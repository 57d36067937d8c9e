import ShareProvisioner.Json.Value
import ShareProvisioner.Text.Digit

/-!
# Tokens of a JSON document

A document is read as a sequence of marks, texts, numbers and the words for the
other scalars, with white space between them.  A token that cannot be completed is
kept as a broken one, since whether it is to blame depends on what was expected in
its place; nothing behind it is looked at.
-/

namespace ShareProvisioner.Json

inductive Problem where
  | value
  | name
  | colon
  | comma
  | extra
  | unterminated
  | control
  | escape
  | unicodeEscape
  | byteOrderMark
deriving DecidableEq, Repr

/-- A token of a document.  A broken text tells how far behind its opening quote the
problem lies. -/
inductive Token where
  | openObject
  | closeObject
  | openArray
  | closeArray
  | colon
  | comma
  | text (value : Text)
  | scalar (value : Json)
  | brokenText (problem : Problem) (offset : Nat)
  | longNumeral (digits : Nat)
  | stray
deriving DecidableEq

/-! ## Texts -/

def hexCodePoint? (first second third fourth : CodePoint) : Option CodePoint := do
  let number := 4096 * (← first.hexDigit?) + 256 * (← second.hexDigit?)
    + 16 * (← third.hexDigit?) + (← fourth.hexDigit?)
  CodePoint.ofNat? number

def letterEscape? : CodePoint → Option Char
  | .char '"' => some '"'
  | .char '\\' => some '\\'
  | .char '/' => some '/'
  | .char 'b' => some '\x08'
  | .char 'f' => some '\x0c'
  | .char 'n' => some '\n'
  | .char 'r' => some '\r'
  | .char 't' => some '\t'
  | _ => none

/-- The value of a text whose first escape names `codePoint`: a leading surrogate
and a trailing one escaped right behind it, where `escapeFollows`, are one character. -/
def joinEscape (codePoint : CodePoint) (escapeFollows : Bool) (value : Text) : Text :=
  match codePoint, value with
  | .surrogate leading, .surrogate trailing :: rest =>
      if escapeFollows && leading < 0x400 && 0x400 ≤ trailing then
        .char (Char.ofNat (0x10000 + 0x400 * leading.val + (trailing.val - 0x400))) :: rest
      else codePoint :: value
  | _, _ => codePoint :: value

def startsWithUnicodeEscape : Text → Bool
  | .char '\\' :: .char 'u' :: _ => true
  | _ => false

/-- Reads the rest of a text up to its closing quote, `offset` code points behind the
opening one; gives the value and the number of code points read. -/
def scanText (offset : Nat) : Text → Except (Problem × Nat) (Text × Nat)
  | [] => .error (.unterminated, 0)
  | .char '"' :: _ => .ok ([], 1)
  | [.char '\\'] => .error (.unterminated, 0)
  | .char '\\' :: .char 'u' :: first :: second :: third :: fourth :: rest =>
      match hexCodePoint? first second third fourth with
      | none => .error (.unicodeEscape, offset + 1)
      | some codePoint =>
          if rest.isEmpty then .error (.unicodeEscape, offset + 1)
          else (scanText (offset + 6) rest).map fun (value, count) =>
            (joinEscape codePoint (startsWithUnicodeEscape rest) value, count + 6)
  | .char '\\' :: letter :: rest =>
      match letterEscape? letter with
      | some value =>
          (scanText (offset + 2) rest).map fun (following, count) =>
            (.char value :: following, count + 2)
      | none =>
          if letter = .char 'u' then .error (.unicodeEscape, offset + 1)
          else .error (.escape, offset)
  | codePoint :: rest =>
      if codePoint.toNat < 0x20 then .error (.control, offset)
      else (scanText (offset + 1) rest).map fun (value, count) => (codePoint :: value, count + 1)

/-! ## Numbers -/

def digitsNumber (digits : Text) : Nat :=
  digits.foldl (fun number digit => 10 * number + (digit.toNat - 48)) 0

/-- The digits before the point: a single zero, or a run that starts with another
digit. -/
def wholePart : Text → Text
  | .char '0' :: _ => [.char '0']
  | input => input.takeWhile CodePoint.isDecimal

def fractionPart : Text → Text
  | .char '.' :: rest => rest.takeWhile CodePoint.isDecimal
  | _ => []

def exponentSign : Text → Text
  | .char '-' :: _ => [.char '-']
  | .char '+' :: _ => [.char '+']
  | _ => []

def exponentPart : Text → Text × Text
  | .char mark :: rest =>
      let sign := exponentSign rest
      let digits := (rest.drop sign.length).takeWhile CodePoint.isDecimal
      if (mark = 'e' || mark = 'E') && !digits.isEmpty then (sign, digits) else ([], [])
  | _ => ([], [])

/-- The number at the front of a text that follows a minus sign if `negative`, with
the count of its code points; `none` if there is no digit. -/
def scanNumber? (negative : Bool) (input : Text) : Option (Token × Nat) :=
  let whole := wholePart input
  if whole.isEmpty then none
  else
    let afterWhole := input.drop whole.length
    let fraction := fractionPart afterWhole
    let fractionLength := if fraction.isEmpty then 0 else fraction.length + 1
    let (sign, exponent) := exponentPart (afterWhole.drop fractionLength)
    let exponentLength := if exponent.isEmpty then 0 else sign.length + exponent.length + 1
    let token :=
      if fraction.isEmpty && exponent.isEmpty then
        if Text.maxDigits < whole.length then Token.longNumeral whole.length
        else
          let number := Int.ofNat (digitsNumber whole)
          .scalar (.integer (if negative then -number else number))
      else
        let power := Int.ofNat (digitsNumber exponent)
        .scalar (.float (Binary64.ofDecimal negative (digitsNumber (whole ++ fraction))
          ((if sign = [.char '-'] then -power else power) - fraction.length)))
    some (token, whole.length + fractionLength + exponentLength)

/-! ## Sequences of tokens -/

def words : List (Text × Json) :=
  [("null", null), ("true", bool true), ("false", bool false), ("NaN", float .nan),
    ("Infinity", float (.infinity false)), ("-Infinity", float (.infinity true))]

/-- The token at the front of `first :: rest`, and how many code points of `rest`
belong to it. -/
def front (first : CodePoint) (rest : Text) : Token × Nat :=
  match first with
  | .char '\x7b' => (.openObject, 0)
  | .char '\x7d' => (.closeObject, 0)
  | .char '[' => (.openArray, 0)
  | .char ']' => (.closeArray, 0)
  | .char ':' => (.colon, 0)
  | .char ',' => (.comma, 0)
  | .char '"' =>
      match scanText 1 rest with
      | .ok (value, count) => (.text value, count)
      | .error (problem, offset) => (.brokenText problem offset, rest.length)
  | _ =>
      match words.find? fun (word, _) => word.isPrefixOf (first :: rest) with
      | some (word, value) => (.scalar value, word.length - 1)
      | none =>
          let found :=
            if first = .char '-' then scanNumber? true rest
            else (scanNumber? false (first :: rest)).map fun (token, count) => (token, count - 1)
          match found with
          | some token => token
          | none => (.stray, rest.length)

def isSpace (codePoint : CodePoint) : Bool :=
  codePoint = .char ' ' || codePoint = .char '\t' || codePoint = .char '\n'
    || codePoint = .char '\r'

structure Placed where
  token : Token
  position : Nat
deriving DecidableEq

/-- The tokens of a text that starts at the given position; the first `pending` code
points of it belong to a token that has been read. -/
def tokensFrom (position pending : Nat) : Text → List Placed
  | [] => []
  | first :: rest =>
      match pending with
      | pending + 1 => tokensFrom (position + 1) pending rest
      | 0 =>
          if isSpace first then tokensFrom (position + 1) 0 rest
          else
            let (token, count) := front first rest
            ⟨token, position⟩ :: tokensFrom (position + 1) count rest

def tokens (document : Text) : List Placed :=
  tokensFrom 0 0 document

end ShareProvisioner.Json
