import ShareProvisioner.Json.Token

/-!
# The grammar of JSON

What a document looks like that denotes a value, said without any reader.  The dialect has three
words beyond the standard's, for the floating point numbers that no numeral denotes, and bounds
the digits of an integer.  A text may have its code points in it, or escape any of them; a
character beyond the first plane may be escaped as two surrogates.
-/

namespace ShareProvisioner.Json

/-- White space between tokens. -/
def IsSpaces (text : Text) : Prop :=
  ∀ codePoint ∈ text, isSpace codePoint = true

instance (text : Text) : Decidable (IsSpaces text) :=
  inferInstanceAs (Decidable (∀ codePoint ∈ text, isSpace codePoint = true))

/-! ## Texts -/

/-- Whether a leading surrogate is written in front of an escaped trailing one. -/
inductive IsCutPair : CodePoint → Text → Prop
  | intro {leading trailing : Fin 0x800} {first second third fourth : CodePoint} {rest : Text}
      (isLeading : leading < 0x400)
      (named : hexCodePoint? first second third fourth = some (.surrogate trailing))
      (isTrailing : 0x400 ≤ trailing) :
      IsCutPair (.surrogate leading)
        (.char '\\' :: .char 'u' :: first :: second :: third :: fourth :: rest)

/-- What stands between the quotes of a text. -/
inductive Spells : Text → Text → Prop
  | nil : Spells [] []
  | plain {codePoint : CodePoint} {value written : Text} (noControl : 0x20 ≤ codePoint.toNat)
      (noQuote : codePoint ≠ .char '"') (noEscape : codePoint ≠ .char '\\')
      (rest : Spells value written) : Spells (codePoint :: value) (codePoint :: written)
  | letter {letter : CodePoint} {character : Char} {value written : Text}
      (named : letterEscape? letter = some character) (rest : Spells value written) :
      Spells (.char character :: value) (.char '\\' :: letter :: written)
  | number {first second third fourth codePoint : CodePoint} {value written : Text}
      (named : hexCodePoint? first second third fourth = some codePoint)
      (whole : ¬IsCutPair codePoint written) (rest : Spells value written) :
      Spells (codePoint :: value)
        (.char '\\' :: .char 'u' :: first :: second :: third :: fourth :: written)
  | pair {first second third fourth otherFirst otherSecond otherThird otherFourth : CodePoint}
      {leading trailing : Fin 0x800} {value written : Text}
      (namesLeading : hexCodePoint? first second third fourth = some (.surrogate leading))
      (isLeading : leading < 0x400)
      (namesTrailing : hexCodePoint? otherFirst otherSecond otherThird otherFourth
        = some (.surrogate trailing))
      (isTrailing : 0x400 ≤ trailing) (rest : Spells value written) :
      Spells
        (.char (Char.ofNat (0x10000 + 0x400 * leading.val + (trailing.val - 0x400))) :: value)
        (.char '\\' :: .char 'u' :: first :: second :: third :: fourth
          :: .char '\\' :: .char 'u' :: otherFirst :: otherSecond :: otherThird :: otherFourth
          :: written)

/-- Whether a code point can stand for itself in a text. -/
def isPlain (codePoint : CodePoint) : Bool :=
  0x20 ≤ codePoint.toNat && codePoint ≠ .char '"' && codePoint ≠ .char '\\'

theorem spells_of_isPlain {text : Text} (plain : ∀ codePoint ∈ text, isPlain codePoint = true) :
    Spells text text := by
  induction text with
  | nil => exact .nil
  | cons first rest induction =>
      have isPlain := plain first List.mem_cons_self
      simp only [Json.isPlain, Bool.and_eq_true, decide_eq_true_eq] at isPlain
      exact .plain isPlain.1.1 isPlain.1.2 isPlain.2
        (induction fun codePoint member => plain codePoint (List.mem_cons_of_mem _ member))

/-! ## Numbers -/

def IsDigits (digits : Text) : Prop :=
  digits ≠ [] ∧ ∀ digit ∈ digits, digit.isDecimal = true

/-- The digits before the point: no zero stands in front of another digit. -/
inductive IsWhole : Text → Prop
  | zero : IsWhole [.char '0']
  | digits {first : CodePoint} {rest : Text} (isDigits : IsDigits (first :: rest))
      (noZero : first ≠ .char '0') : IsWhole (first :: rest)

/-- What is written for the digits behind the point. -/
inductive WritesFraction : Text → Text → Prop
  | none : WritesFraction [] []
  | some {digits : Text} (isDigits : IsDigits digits) : WritesFraction digits (.char '.' :: digits)

/-- The sign of a power, which may be left out. -/
inductive IsSign : Text → Prop
  | none : IsSign []
  | plus : IsSign [.char '+']
  | minus : IsSign [.char '-']

def powerOf (sign digits : Text) : Int :=
  if sign = [.char '-'] then -digitsNumber digits else digitsNumber digits

/-- What is written for a power of ten. -/
inductive WritesPower : Int → Text → Prop
  | none : WritesPower 0 []
  | some {mark : Char} {sign digits : Text} (isMark : mark = 'e' ∨ mark = 'E')
      (isSign : IsSign sign) (isDigits : IsDigits digits) :
      WritesPower (powerOf sign digits) (.char mark :: (sign ++ digits))

/-- A number behind its sign; it is an integer unless it has a fraction or a power. -/
inductive WritesNumber (negative : Bool) : Json → Text → Prop
  | integer {whole : Text} (isWhole : IsWhole whole) (bounded : whole.length ≤ Text.maxDigits) :
      WritesNumber negative
        (.integer (if negative then -digitsNumber whole else digitsNumber whole)) whole
  | float {whole fraction writtenFraction writtenPower : Text} {power : Int}
      (isWhole : IsWhole whole) (writesFraction : WritesFraction fraction writtenFraction)
      (writesPower : WritesPower power writtenPower)
      (isFloat : writtenFraction ≠ [] ∨ writtenPower ≠ []) :
      WritesNumber negative
        (.float (Binary64.ofDecimal negative (digitsNumber (whole ++ fraction))
          (power - fraction.length)))
        (whole ++ writtenFraction ++ writtenPower)

/-! ## Values -/

/-- What is written for a value that holds no other and is no text. -/
inductive WritesScalar : Json → Text → Prop
  | word {word : Text} {value : Json} (isWord : (word, value) ∈ words) : WritesScalar value word
  | positive {value : Json} {written : Text} (number : WritesNumber false value written) :
      WritesScalar value written
  | negative {value : Json} {written : Text} (number : WritesNumber true value written) :
      WritesScalar value (.char '-' :: written)

/-- The name of a member with the white space around it. -/
inductive WritesName (name : Text) : Text → Prop
  | mk {before written after : Text} (spacesBefore : IsSpaces before)
      (spells : Spells name written) (spacesAfter : IsSpaces after) :
      WritesName name (before ++ .char '"' :: (written ++ .char '"' :: after))

/-- The parts of a document.  An element is a value with the white space around it; items and
members are one at least, and members are all that are written, in their order. -/
inductive Phrase where
  | value (value : Json)
  | element (value : Json)
  | items (items : List Json)
  | members (members : List (Text × Json))
  | object (members : List (Text × Json))

/-- What is written for a part of a document. -/
inductive Writes : Phrase → Text → Prop
  | scalar {value : Json} {written : Text} (scalar : WritesScalar value written) :
      Writes (.value value) written
  | text {value written : Text} (spells : Spells value written) :
      Writes (.value (.text value)) (.char '"' :: (written ++ [.char '"']))
  | emptyArray {spaces : Text} (isSpaces : IsSpaces spaces) :
      Writes (.value (.array [])) (.char '[' :: (spaces ++ [.char ']']))
  | array {items : List Json} {written : Text} (writesItems : Writes (.items items) written) :
      Writes (.value (.array items)) (.char '[' :: (written ++ [.char ']']))
  | object {members : List (Text × Json)} {written : Text}
      (writesObject : Writes (.object members) written) :
      Writes (.value (.object (Entries.ofList members))) written
  | emptyObject {spaces : Text} (isSpaces : IsSpaces spaces) :
      Writes (.object []) (.char '\x7b' :: (spaces ++ [.char '\x7d']))
  | someObject {members : List (Text × Json)} {written : Text}
      (writesMembers : Writes (.members members) written) :
      Writes (.object members) (.char '\x7b' :: (written ++ [.char '\x7d']))
  | element {value : Json} {before written after : Text} (spacesBefore : IsSpaces before)
      (writesValue : Writes (.value value) written) (spacesAfter : IsSpaces after) :
      Writes (.element value) (before ++ (written ++ after))
  | firstItem {item : Json} {written : Text} (writesItem : Writes (.element item) written) :
      Writes (.items [item]) written
  | nextItem {items : List Json} {item : Json} {others written : Text}
      (writesOthers : Writes (.items items) others) (writesItem : Writes (.element item) written) :
      Writes (.items (items ++ [item])) (others ++ .char ',' :: written)
  | firstMember {name : Text} {value : Json} {writtenName written : Text}
      (writesName : WritesName name writtenName)
      (writesValue : Writes (.element value) written) :
      Writes (.members [(name, value)]) (writtenName ++ .char ':' :: written)
  | nextMember {members : List (Text × Json)} {name : Text} {value : Json}
      {others writtenName written : Text} (writesOthers : Writes (.members members) others)
      (writesName : WritesName name writtenName)
      (writesValue : Writes (.element value) written) :
      Writes (.members (members ++ [(name, value)]))
        (others ++ .char ',' :: (writtenName ++ .char ':' :: written))

/-- Whether a document denotes a value. -/
def Denotes (document : Text) (value : Json) : Prop :=
  Writes (.element value) document

/-- Whether a document is an object in which the members are written, in their order and with
those that later ones replace. -/
def ListsMembers (document : Text) (members : List (Text × Json)) : Prop :=
  ∃ before written after, IsSpaces before ∧ Writes (.object members) written ∧ IsSpaces after
    ∧ document = before ++ (written ++ after)

end ShareProvisioner.Json
