/-!
# Code points and texts

A text is a list of code points.  Escapes in a JSON document can name one half
of a surrogate pair without the other, so a code point is either a character or
a surrogate that stands alone; a text decoded from octets never holds the
latter.  Lengths, positions and the order of texts all count code points.
-/

namespace ShareProvisioner

/-- One element of a text: a character, or a lone half of a surrogate pair,
given by its distance from the first surrogate. -/
inductive CodePoint where
  | char (value : Char)
  | surrogate (offset : Fin 0x800)
deriving DecidableEq, Repr

namespace CodePoint

instance : Coe Char CodePoint := ⟨.char⟩

def toNat : CodePoint → Nat
  | char value => value.toNat
  | surrogate offset => 0xD800 + offset.val

/-- The code point with the given number; there is none above `0x10FFFF`. -/
def ofNat? (number : Nat) : Option CodePoint :=
  if valid : number.isValidChar then some (char (Char.ofNatAux number valid))
  else if isSurrogate : 0xD800 ≤ number ∧ number < 0xE000 then
    some (surrogate ⟨number - 0xD800, by omega⟩)
  else none

def isScalar : CodePoint → Bool
  | char _ => true
  | surrogate _ => false

def isChar (property : Char → Bool) : CodePoint → Bool
  | char value => property value
  | surrogate _ => false

def isDecimal : CodePoint → Bool :=
  isChar Char.isDigit

def isAscii (codePoint : CodePoint) : Bool :=
  codePoint.toNat < 0x80

/-- The small letter for a capital ASCII letter; anything else stays. -/
def asciiLower : CodePoint → CodePoint
  | char value => char value.toLower
  | surrogate offset => surrogate offset

def upper : CodePoint → CodePoint
  | char value => char value.toUpper
  | surrogate offset => surrogate offset

instance : LT CodePoint := ⟨fun left right => left.toNat < right.toNat⟩

instance (left right : CodePoint) : Decidable (left < right) :=
  inferInstanceAs (Decidable (left.toNat < right.toNat))

end CodePoint

abbrev Text := List CodePoint

namespace Text

def ofString (string : String) : Text :=
  string.toList.map .char

instance : Coe String Text := ⟨ofString⟩

/-- The text as a string, without any lone surrogates. -/
def toString (text : Text) : String :=
  String.ofList (text.filterMap fun
    | .char value => some value
    | .surrogate _ => none)

def isScalar (text : Text) : Bool :=
  text.all CodePoint.isScalar

def upper (text : Text) : Text :=
  text.map CodePoint.upper

def ofNat (number : Nat) : Text :=
  (Nat.toDigits 10 number).map .char

def ofInt : Int → Text
  | .ofNat number => ofNat number
  | .negSucc number => '-' :: ofNat (number + 1)

/-! ## Cutting and joining -/

/-- The part before the first code point that satisfies `separator`, and the
part after it; `none` if there is no such code point. -/
def cut? (separator : CodePoint → Bool) : Text → Option (Text × Text)
  | [] => none
  | first :: rest =>
      if separator first then some ([], rest)
      else (cut? separator rest).map fun (before, after) => (first :: before, after)

/-- The pieces between the occurrences of `separator`: one more than there are
occurrences, so that a text without any is its own only piece. -/
def pieces (separator : CodePoint) : Text → List Text
  | [] => [[]]
  | first :: rest =>
      if first = separator then [] :: pieces separator rest
      else match pieces separator rest with
        | [] => [[first]]
        | piece :: others => (first :: piece) :: others

def join (separator : Text) (parts : List Text) : Text :=
  separator.intercalate parts

def trimRight (property : CodePoint → Bool) (text : Text) : Text :=
  (text.reverse.dropWhile property).reverse

def trim (property : CodePoint → Bool) (text : Text) : Text :=
  trimRight property (text.dropWhile property)

end Text

end ShareProvisioner
