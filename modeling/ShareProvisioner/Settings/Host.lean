import ShareProvisioner.Text.Hexadecimal
import ShareProvisioner.Text.Letter
import ShareProvisioner.Text.Lines

/-!
# Host addresses

A host is given by an address of version 4 or 6 of the Internet Protocol or by its
name.  A name whose last label is a number would be a misspelt address.
-/

namespace ShareProvisioner.Host

/-- A number up to 255 without a zero in front. -/
def isOctet (text : Text) : Bool :=
  text.all CodePoint.isDecimal && !text.isEmpty && text.length ≤ 3
    && (text.length = 1 || text.head? ≠ some (.char '0'))
    && text.foldl (fun number digit => 10 * number + (digit.toNat - 48)) 0 ≤ 255

def isVersion4 (text : Text) : Bool :=
  let octets := Text.pieces '.' text
  octets.length = 4 && octets.all isOctet

def isGroup (text : Text) : Bool :=
  text.all (·.hexDigit?.isSome) && !text.isEmpty && text.length ≤ 4

/-- The number of groups between colons; the last two may be written as an address of
version 4. -/
def groupCount? : List Text → Option Nat
  | [] => some 0
  | [last] => if isGroup last then some 1 else if isVersion4 last then some 2 else none
  | first :: rest => if isGroup first then (groupCount? rest).map (· + 1) else none

def groups (text : Text) : List Text :=
  if text.isEmpty then [] else Text.pieces ':' text

def cutAtGap? : Text → Option (Text × Text)
  | .char ':' :: .char ':' :: rest => some ([], rest)
  | [] => none
  | first :: rest => (cutAtGap? rest).map fun (before, after) => (first :: before, after)

/-- Eight groups between colons, where one pair of colons may stand for one group or
more. -/
def isVersion6 (text : Text) : Bool :=
  match cutAtGap? text with
  | none => groupCount? (groups text) = some 8
  | some (before, after) =>
      (groups before).all isGroup &&
        match groupCount? (groups after) with
        | some count => (groups before).length + count ≤ 7
        | none => false

def isNamePart (part : CodePoint) : Bool :=
  part.isLetter || part.isDecimal || part = .char '-'

/-- Up to 63 letters, digits and hyphens, without a hyphen at either end; the label may
end its line. -/
def isNameLabel (label : Text) : Bool :=
  let parts := label.withoutLineEnd
  parts.all isNamePart && !parts.isEmpty && parts.length ≤ 63
    && parts.head? ≠ some (.char '-') && parts.getLast? ≠ some (.char '-')

def isName (name : Text) : Bool :=
  let labels := Text.pieces '.' name
  labels.all isNameLabel && labels.getLast?.any fun last => !last.all CodePoint.isDecimal

def withoutFinalDot (text : Text) : Text :=
  if text.getLast? = some (.char '.') then text.dropLast else text

/-- The host that a text names: an address as it is, a name without a dot at its end. -/
def ofText? (text : Text) : Option Text :=
  if isVersion4 text || isVersion6 text then some text
  else if text.length ≤ 253 && isName (withoutFinalDot text) then some (withoutFinalDot text)
  else none

example : ["::1", "1::8", "1:2:3:4:5:6:7:8", "::1.2.3.4"].map (isVersion6 ∘ Text.ofString)
    = [true, true, true, true] := by decide
example : [":", ":::", "1::2::3", "1:2:3:4:5:6:7::8"].map (isVersion6 ∘ Text.ofString)
    = [false, false, false, false] := by decide

end ShareProvisioner.Host
