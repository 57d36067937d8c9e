import ShareProvisioner.Text.Utf8

/-!
# Wider encodings

In UTF-16 and UTF-32 a code point is a group of two or four octets, or a pair of
groups of two, in either byte order.  The readers here let lone surrogates pass,
also in UTF-8, where such a one has the form of any other code point of three
octets.
-/

namespace ShareProvisioner.Text

def littleEndian (octets : Octets) : Nat :=
  octets.foldr (fun octet number => octet.toNat + 256 * number) 0

def pairs? (bigEndian : Bool) : Octets → Option (List Nat)
  | [] => some []
  | [_] => none
  | first :: second :: rest =>
      let group := if bigEndian then [second, first] else [first, second]
      (pairs? bigEndian rest).map (littleEndian group :: ·)

def quadruples? (bigEndian : Bool) : Octets → Option (List Nat)
  | [] => some []
  | first :: second :: third :: fourth :: rest =>
      let group := [first, second, third, fourth]
      (quadruples? bigEndian rest).map
        (littleEndian (if bigEndian then group.reverse else group) :: ·)
  | _ => none

/-- The code points of UTF-16 units: a leading surrogate and the trailing one after
it are one character. -/
def ofUnits : List Nat → Option Text
  | first :: second :: rest =>
      if 0xD800 ≤ first && first < 0xDC00 && 0xDC00 ≤ second && second < 0xE000 then do
        let codePoint ← CodePoint.ofNat? (0x10000 + (first - 0xD800) * 0x400 + (second - 0xDC00))
        return codePoint :: (← ofUnits rest)
      else do
        let codePoint ← CodePoint.ofNat? first
        return codePoint :: (← ofUnits (second :: rest))
  | [last] => (CodePoint.ofNat? last).map ([·])
  | [] => some []

def ofUtf16? (bigEndian : Bool) (octets : Octets) : Option Text :=
  (pairs? bigEndian octets).bind ofUnits

def ofUtf32? (bigEndian : Bool) (octets : Octets) : Option Text :=
  (quadruples? bigEndian octets).bind (·.mapM CodePoint.ofNat?)

/-- The surrogate whose UTF-8 form would be the three octets `octet :: rest`. -/
def surrogateFront? (octet : UInt8) (rest : Octets) : Option CodePoint :=
  match rest with
  | second :: third :: _ =>
      if octet = 0xED && 0xA0 ≤ second && second ≤ 0xBF && 0x80 ≤ third && third ≤ 0xBF then
        CodePoint.ofNat? (0xD000 + 64 * (second.toNat - 0x80) + (third.toNat - 0x80))
      else none
  | _ => none

/-- The text of UTF-8 octets without the first `pending`, lone surrogates included. -/
def ofUtf8After? (pending : Nat) : Octets → Option Text
  | [] => some []
  | octet :: rest =>
      match pending with
      | pending + 1 => ofUtf8After? pending rest
      | 0 =>
          match surrogateFront? octet rest, Utf8.front octet rest with
          | some codePoint, _ => (ofUtf8After? 2 rest).map (codePoint :: ·)
          | none, .character number following =>
              (ofUtf8After? following rest).map (.char (Char.ofNat number) :: ·)
          | none, .broken _ _ => none

def ofUtf8? (octets : Octets) : Option Text :=
  ofUtf8After? 0 octets

end ShareProvisioner.Text
