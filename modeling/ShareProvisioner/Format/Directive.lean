import ShareProvisioner.Text.Quoted

/-!
# Directives in a text

A text can say where values are to be shown in it, and how.  A directive starts with a
percent sign.  It may name its value in parentheses, which may hold others in matching
pairs; flags, a width, a precision and a letter without meaning may follow, each of them
optional; the letter at its end says what kind of text the value is shown as.  An asterisk
in place of a width or a precision has it taken from the value.  Two percent signs stand
for one.

A text that breaks off, or that has a number too large in it, spells a directive that is
broken at that place, and the rest of the text says nothing.
-/

namespace ShareProvisioner.Format

inductive Fault where
  | missing (name : Text)
  | incomplete
  | incompleteName
  | widthTooLarge
  | precisionTooLarge
  /-- No kind of text is called by the letter at that index. -/
  | unsupported (letter : CodePoint) (index : Nat)
  | noValue
  | wrongKind
  /-- A number that is none cannot be shown without a fraction. -/
  | notNumber
  | outOfRange
  | tooLong
deriving DecidableEq, Repr

/-- A code point as faults show it: only visible ASCII characters as they are. -/
def visible (codePoint : CodePoint) : CodePoint :=
  if 31 ≤ codePoint.toNat && codePoint.toNat ≤ 126 then codePoint else .char '?'

def Fault.message : Fault → Text
  | missing name => name.quoted
  | incomplete => "incomplete format"
  | incompleteName => "incomplete format key"
  | widthTooLarge => "width too big"
  | precisionTooLarge => "precision too big"
  | unsupported letter index =>
      "unsupported format character '" ++ [visible letter] ++ "' (0x"
        ++ Text.hexadecimal 0 letter.toNat ++ ") at index " ++ Text.ofNat index
  | noValue => "not enough arguments for format string"
  | wrongKind => "a value of another type is required"
  | notNumber => "cannot convert float NaN to integer"
  | outOfRange => "value out of range"
  | tooLong => "text too long"

structure Flags where
  leftAligned : Bool := false
  signed : Bool := false
  spaced : Bool := false
  alternate : Bool := false
  zeroFilled : Bool := false
deriving DecidableEq, Repr

def Flags.with? (flags : Flags) : CodePoint → Option Flags
  | .char '-' => some { flags with leftAligned := true }
  | .char '+' => some { flags with signed := true }
  | .char ' ' => some { flags with spaced := true }
  | .char '#' => some { flags with alternate := true }
  | .char '0' => some { flags with zeroFilled := true }
  | _ => none

inductive Size where
  | open
  | fixed (number : Nat)
  | taken
deriving DecidableEq, Repr

inductive Ending where
  | letter (letter : CodePoint) (index : Nat)
  | broken (fault : Fault)
deriving DecidableEq, Repr

structure Directive where
  name : Option Text := none
  flags : Flags := {}
  width : Size := .open
  precision : Size := .open
deriving DecidableEq, Repr

inductive Part where
  | literal (codePoint : CodePoint)
  | directive (directive : Directive) (ending : Ending)
  | broken (fault : Fault)
deriving DecidableEq, Repr

/-! ## Spelling -/

/-- Where the reading of a text stands: in plain text, behind a percent sign, inside a
name (given in reverse) and so many parentheses of its own, or in a directive: among its
flags, in or behind a width or a precision, or before its last letter. -/
inductive Place where
  | plain
  | mark
  | name (reversed : Text) (depth : Nat)
  | flags (directive : Directive)
  | inWidth (directive : Directive) (number : Nat)
  | behindWidth (directive : Directive)
  | point (directive : Directive)
  | inPrecision (directive : Directive) (number : Nat)
  | behindPrecision (directive : Directive)
  | last (directive : Directive)
deriving DecidableEq, Repr

/-- What a code point does: the reading goes on at a place, or a part is complete, or it
is broken and nothing follows. -/
inductive Move where
  | next (place : Place)
  | complete (part : Part)
  | stop (part : Part)
deriving DecidableEq, Repr

def maxWidth : Nat := Nat.pow 2 63 - 1

def maxPrecision : Nat := Nat.pow 2 31 - 1

def digit? (codePoint : CodePoint) : Option Nat :=
  if codePoint.isDecimal then some (codePoint.toNat - 48) else none

namespace Directive

/-- The part that a directive is with its last letter. -/
def atLetter (directive : Directive) (index : Nat) (codePoint : CodePoint) : Move :=
  .complete (.directive directive (.letter codePoint index))

/-- Goes on behind the precision, where a letter without meaning may stand. -/
def behindPrecision (directive : Directive) (index : Nat) (codePoint : CodePoint) : Move :=
  if (Text.ofString "hlL").contains codePoint then .next (.last directive)
  else directive.atLetter index codePoint

/-- Goes on in a precision, of which `number` has been read. -/
def inPrecision (directive : Directive) (number index : Nat) (codePoint : CodePoint) : Move :=
  match digit? codePoint with
  | none => directive.behindPrecision index codePoint
  | some digit =>
      let longer := 10 * number + digit
      if maxPrecision < longer then .stop (.directive directive (.broken .precisionTooLarge))
      else .next (.inPrecision { directive with precision := .fixed longer } longer)

def behindPoint (directive : Directive) (index : Nat) (codePoint : CodePoint) : Move :=
  if codePoint = .char '*' then .next (.behindPrecision { directive with precision := .taken })
  else directive.inPrecision 0 index codePoint

def behindWidth (directive : Directive) (index : Nat) (codePoint : CodePoint) : Move :=
  if codePoint = .char '.' then .next (.point { directive with precision := .fixed 0 })
  else directive.behindPrecision index codePoint

def inWidth (directive : Directive) (number index : Nat) (codePoint : CodePoint) : Move :=
  match digit? codePoint with
  | none => directive.behindWidth index codePoint
  | some digit =>
      let longer := 10 * number + digit
      if maxWidth < longer then .stop (.directive directive (.broken .widthTooLarge))
      else .next (.inWidth { directive with width := .fixed longer } longer)

def amongFlags (directive : Directive) (index : Nat) (codePoint : CodePoint) : Move :=
  match directive.flags.with? codePoint with
  | some flags => .next (.flags { directive with flags })
  | none =>
      if codePoint = .char '*' then .next (.behindWidth { directive with width := .taken })
      else directive.inWidth 0 index codePoint

end Directive

def Place.move (index : Nat) (codePoint : CodePoint) : Place → Move
  | plain =>
      if codePoint = .char '%' then .next .mark else .complete (.literal codePoint)
  | mark =>
      if codePoint = .char '%' then .complete (.literal codePoint)
      else if codePoint = .char '(' then .next (.name [] 0)
      else Directive.amongFlags {} index codePoint
  | name reversed 0 =>
      if codePoint = .char ')' then .next (.flags { name := some reversed.reverse })
      else if codePoint = .char '(' then .next (.name (codePoint :: reversed) 1)
      else .next (.name (codePoint :: reversed) 0)
  | name reversed (depth + 1) =>
      if codePoint = .char ')' then .next (.name (codePoint :: reversed) depth)
      else if codePoint = .char '(' then .next (.name (codePoint :: reversed) (depth + 2))
      else .next (.name (codePoint :: reversed) (depth + 1))
  | flags directive => directive.amongFlags index codePoint
  | inWidth directive number => directive.inWidth number index codePoint
  | behindWidth directive => directive.behindWidth index codePoint
  | point directive => directive.behindPoint index codePoint
  | inPrecision directive number => directive.inPrecision number index codePoint
  | behindPrecision directive => directive.behindPrecision index codePoint
  | last directive => directive.atLetter index codePoint

/-- What is left of a text that ends at a place. -/
def Place.finish : Place → List Part
  | plain => []
  | mark => [.directive {} (.broken .incomplete)]
  | name _ _ => [.broken .incompleteName]
  | flags directive | inWidth directive _ | behindWidth directive | point directive
  | inPrecision directive _ | behindPrecision directive | last directive =>
      [.directive directive (.broken .incomplete)]

/-- The parts spelt by the rest of a text, which starts at the given index. -/
def partsFrom (index : Nat) (place : Place) : Text → List Part
  | [] => place.finish
  | codePoint :: rest =>
      match place.move index codePoint with
      | .next place => partsFrom (index + 1) place rest
      | .complete part => part :: partsFrom (index + 1) .plain rest
      | .stop part => [part]

def parts (text : Text) : List Part :=
  partsFrom 0 .plain text

example : parts (Text.ofString "%%%(a)-5.2hs") =
    [.literal '%', .directive
      { name := some (Text.ofString "a")
        flags := { leftAligned := true }
        width := .fixed 5
        precision := .fixed 2 } (.letter 's' 11)] := by decide

end ShareProvisioner.Format
