import ShareProvisioner.Text.Utf8

/-!
# Base64

Three octets are written as four characters of six bits each; a shorter last
group is filled with `=`.  Reading is lenient: characters outside the alphabet are
skipped, and so is everything after the `=` that completes a group.
-/

namespace ShareProvisioner.Base64

def letter (value : Nat) : Char :=
  if value < 26 then Char.ofNat (65 + value)
  else if value < 52 then Char.ofNat (97 + (value - 26))
  else if value < 62 then Char.ofNat (48 + (value - 52))
  else if value = 62 then '+'
  else '/'

def value? (letter : Char) : Option Nat :=
  if 'A' ≤ letter && letter ≤ 'Z' then some (letter.toNat - 65)
  else if 'a' ≤ letter && letter ≤ 'z' then some (letter.toNat - 97 + 26)
  else if '0' ≤ letter && letter ≤ '9' then some (letter.toNat - 48 + 52)
  else if letter = '+' then some 62
  else if letter = '/' then some 63
  else none

def encode : Octets → List Char
  | first :: second :: third :: rest =>
      letter (first.toNat / 4)
        :: letter (first.toNat % 4 * 16 + second.toNat / 16)
        :: letter (second.toNat % 16 * 4 + third.toNat / 64)
        :: letter (third.toNat % 64)
        :: encode rest
  | [first, second] =>
      [letter (first.toNat / 4), letter (first.toNat % 4 * 16 + second.toNat / 16),
        letter (second.toNat % 16 * 4), '=']
  | [first] => [letter (first.toNat / 4), letter (first.toNat % 4 * 16), '=', '=']
  | [] => []

inductive Fault where
  | notAscii
  | padding
  | lengthOf (characters : Nat)
deriving DecidableEq, Repr

/-- How far the reading of a group of four characters has come: the values read so
far in it. -/
inductive Group where
  | empty
  | one (first : Nat)
  | two (first second : Nat)
  | three (first second third : Nat)
deriving DecidableEq, Repr

def Group.size : Group → Nat
  | .empty => 0
  | .one _ => 1
  | .two _ _ => 2
  | .three _ _ _ => 3

/-- The group after one more value, with the octet that this completes. -/
def Group.push (value : Nat) : Group → Option UInt8 × Group
  | .empty => (none, .one value)
  | .one first => (some (UInt8.ofNat (first * 4 + value / 16)), .two first value)
  | .two first second =>
      (some (UInt8.ofNat (second % 16 * 16 + value / 4)), .three first second value)
  | .three _ _ third => (some (UInt8.ofNat (third % 4 * 64 + value)), .empty)

/-- The octets of the characters that follow, when `written` octets have been read
before, the current group is `group`, and `fillers` padding characters came last. -/
def decodeFrom (written fillers : Nat) (group : Group) : List Char → Except Fault Octets
  | [] =>
      match group with
      | .empty => .ok []
      | .one _ => .error (.lengthOf (written / 3 * 4 + 1))
      | _ => .error .padding
  | next :: rest =>
      if next = '=' then
        if 2 ≤ group.size && 4 ≤ group.size + (fillers + 1) then .ok []
        else decodeFrom written (if 2 ≤ group.size then fillers + 1 else fillers) group rest
      else
        match value? next with
        | none => decodeFrom written fillers group rest
        | some value =>
            match group.push value with
            | (some octet, group) => (decodeFrom (written + 1) 0 group rest).map (octet :: ·)
            | (none, group) => decodeFrom written 0 group rest

def asciiChars? (text : Text) : Option (List Char) :=
  text.mapM fun
    | .char value => if value.toNat < 0x80 then some value else none
    | .surrogate _ => none

def decode (text : Text) : Except Fault Octets :=
  match asciiChars? text with
  | none => .error .notAscii
  | some characters => decodeFrom 0 0 .empty characters

example : encode (Utf8.ofString "key") = "a2V5".toList := by decide
example : decode (Text.ofString "a2 V\n5=") = .ok (Utf8.ofString "key") := rfl
example : decode (Text.ofString "a2V5a") = .error (.lengthOf 5) := rfl

def Fault.message : Fault → Text
  | .notAscii => "string argument should contain only ASCII characters"
  | .padding => "Incorrect padding"
  | .lengthOf characters =>
      "Invalid base64-encoded string: number of data characters (" ++ Text.ofNat characters
        ++ ") cannot be 1 more than a multiple of 4"

end ShareProvisioner.Base64
