import ShareProvisioner.Text.Quoted

/-!
# UTF-8

A character is one leading octet and up to three continuation octets, each of
which carries six bits.  The leading octet fixes how many follow and, so that
every character has one form only, which range the first of them lies in.

`Utf8.encode` and `Utf8.decode` are strict; `Utf8.decodeReplacing` puts the
replacement character in place of each longest start of a form that is not
completed.  Names of files and texts for processes need not be UTF-8: in
`Utf8.encodeName` an octet that belongs to no character is stood for by a surrogate.
-/

namespace ShareProvisioner

abbrev Octets := List UInt8

namespace Utf8

/-! ## Encoding -/

/-- The continuation octet that carries the six bits of `number` above the lowest
`6 * position`. -/
def continuation (number position : Nat) : UInt8 :=
  UInt8.ofNat (0x80 + number / Nat.pow 64 position % 64)

def encodeNumber (number : Nat) : Octets :=
  if number < 0x80 then [UInt8.ofNat number]
  else if number < 0x800 then
    [UInt8.ofNat (0xC0 + number / 64), continuation number 0]
  else if number < 0x10000 then
    [UInt8.ofNat (0xE0 + number / Nat.pow 64 2), continuation number 1, continuation number 0]
  else
    [UInt8.ofNat (0xF0 + number / Nat.pow 64 3), continuation number 2, continuation number 1,
      continuation number 0]

/-- A lone surrogate in a text, which no octets stand for: the number of code
points before the first run of such, and the run itself. -/
structure Unencodable where
  position : Nat
  run : List (Fin 0x800)
deriving DecidableEq, Repr

def leadingSurrogates : Text → List (Fin 0x800)
  | .surrogate offset :: rest => offset :: leadingSurrogates rest
  | _ => []

/-- The octets of a text whose first code point has the given position. -/
def encodeFrom (position : Nat) : Text → Except Unencodable Octets
  | [] => .ok []
  | .char value :: rest =>
      (encodeFrom (position + 1) rest).map (encodeNumber value.toNat ++ ·)
  | .surrogate offset :: rest => .error ⟨position, offset :: leadingSurrogates rest⟩

def encode (text : Text) : Except Unencodable Octets :=
  encodeFrom 0 text

/-- The octets of a name for the operating system, whose first code point has the given position.
The surrogates from U+DC80 to U+DCFF stand for single octets. -/
def encodeNameFrom (position : Nat) : Text → Except Unencodable Octets
  | [] => .ok []
  | .char value :: rest =>
      (encodeNameFrom (position + 1) rest).map (encodeNumber value.toNat ++ ·)
  | .surrogate offset :: rest =>
      if 0x480 ≤ offset.val && offset.val ≤ 0x4FF then
        (encodeNameFrom (position + 1) rest).map (UInt8.ofNat (offset.val - 0x400) :: ·)
      else .error ⟨position, offset :: leadingSurrogates rest⟩

def encodeName (name : Text) : Except Unencodable Octets :=
  encodeNameFrom 0 name

example : encodeName [.char 'é', .surrogate 0x4FF] = .ok [0xC3, 0xA9, 0xFF] := rfl

def ofString (string : String) : Octets :=
  string.toList.flatMap fun value => encodeNumber value.toNat

/-! ## Decoding -/

/-- What a leading octet announces: how many octets continue it, the range of the
first of those, and the bits of its own. -/
structure Lead where
  continuations : Nat
  least : UInt8 := 0x80
  greatest : UInt8 := 0xBF
  bits : Nat
deriving DecidableEq, Repr

def lead? (octet : UInt8) : Option Lead :=
  if octet < 0x80 then some { continuations := 0, bits := octet.toNat }
  else if octet < 0xC2 then none
  else if octet < 0xE0 then some { continuations := 1, bits := octet.toNat - 0xC0 }
  else if octet = 0xE0 then some { continuations := 2, least := 0xA0, bits := 0 }
  else if octet = 0xED then some { continuations := 2, greatest := 0x9F, bits := 0xD }
  else if octet < 0xF0 then some { continuations := 2, bits := octet.toNat - 0xE0 }
  else if octet = 0xF0 then some { continuations := 3, least := 0x90, bits := 0 }
  else if octet < 0xF4 then some { continuations := 3, bits := octet.toNat - 0xF0 }
  else if octet = 0xF4 then some { continuations := 3, greatest := 0x8F, bits := 4 }
  else none

/-- The longest run of at most `count` continuation octets, the first of which
lies between `least` and `greatest`. -/
def continuationRun (count : Nat) (least greatest : UInt8) : Octets → Octets
  | [] => []
  | octet :: rest =>
      match count with
      | 0 => []
      | count + 1 =>
          if least ≤ octet && octet ≤ greatest then
            octet :: continuationRun count 0x80 0xBF rest
          else []

inductive Fault where
  | start
  | continuation
  | ended
deriving DecidableEq, Repr

/-- What stands at the front of some octets: a character with the number of octets
after its leading one, or a broken form with the same number. -/
inductive Front where
  | character (number following : Nat)
  | broken (fault : Fault) (following : Nat)
deriving DecidableEq, Repr

def front (octet : UInt8) (rest : Octets) : Front :=
  match lead? octet with
  | none => .broken .start 0
  | some lead =>
      let run := continuationRun lead.continuations lead.least lead.greatest rest
      if run.length = lead.continuations then
        .character (run.foldl (fun number next => 64 * number + (next.toNat - 0x80)) lead.bits)
          run.length
      else .broken (if run.length = rest.length then .ended else .continuation) run.length

/-- The first broken form among octets: its position, its leading octet, the number
of octets after that, and its fault. -/
structure Undecodable where
  position : Nat
  octet : UInt8
  following : Nat
  fault : Fault
deriving DecidableEq, Repr

/-- The text of octets the first of which has the given position; the first
`pending` of them belong to a character that has been read. -/
def decodeFrom (position pending : Nat) : Octets → Except Undecodable Text
  | [] => .ok []
  | octet :: rest =>
      match pending with
      | pending + 1 => decodeFrom (position + 1) pending rest
      | 0 =>
          match front octet rest with
          | .character number following =>
              (decodeFrom (position + 1) following rest).map (.char (Char.ofNat number) :: ·)
          | .broken fault following => .error ⟨position, octet, following, fault⟩

def decode (octets : Octets) : Except Undecodable Text :=
  decodeFrom 0 0 octets

/-! ### Reading in pieces

A stream is read in pieces of a fixed size.  The start of a character at the end of one
piece is carried over to the front of the next, and positions count from there. -/

def isContinuation (octet : UInt8) : Bool :=
  0x80 ≤ octet && octet ≤ 0xBF

/-- How many octets of a character lie before `boundary`, if it does not end there. -/
def carried (octets : Octets) (boundary : Nat) : Nat :=
  if octets[boundary]?.any isContinuation then
    ((octets.take boundary).reverse.takeWhile isContinuation).length + 1
  else 0

/-- The broken form with its position in the piece that it is found in, where pieces
have `size` octets. -/
def Undecodable.inPiece (size : Nat) (octets : Octets) (undecodable : Undecodable) :
    Undecodable :=
  let boundary := undecodable.position / size * size
  let past := undecodable.position + 1 + undecodable.following
  let isCarried := undecodable.fault ≠ .start
    && (past = octets.length || boundary + size ≤ past)
  { undecodable with
    position :=
      if isCarried then 0
      else if boundary = undecodable.position then 0
      else undecodable.position - boundary + carried octets boundary }

def decodeInPieces (size : Nat) (octets : Octets) : Except Undecodable Text :=
  (decode octets).mapError (·.inPiece size octets)

example : decodeInPieces 4 [0x61, 0x61, 0xFF] = .error ⟨2, 0xFF, 0, .start⟩ := rfl
example : decodeInPieces 4 [0x61, 0x61, 0x61, 0xC3, 0xA9, 0xFF] = .error ⟨2, 0xFF, 0, .start⟩ :=
  rfl
example : decodeInPieces 4 [0x61, 0x61, 0xE2, 0x82] = .error ⟨0, 0xE2, 1, .ended⟩ := rfl

/-! ### Replacing -/

/-- The text of octets without the first `pending`, each broken form of which
becomes U+FFFD. -/
def decodeReplacingAfter (pending : Nat) : Octets → Text
  | [] => []
  | octet :: rest =>
      match pending with
      | pending + 1 => decodeReplacingAfter pending rest
      | 0 =>
          match front octet rest with
          | .character number following =>
              .char (Char.ofNat number) :: decodeReplacingAfter following rest
          | .broken _ following => .char '\uFFFD' :: decodeReplacingAfter following rest

def decodeReplacing (octets : Octets) : Text :=
  decodeReplacingAfter 0 octets

example : decodeReplacing [0x61, 0xE2, 0x82, 0x62] = Text.ofString "a\uFFFDb" := by decide
example : decode [0xE2, 0x82, 0xAC] = .ok (Text.ofString "€") := rfl

/-! ## Messages -/

def Fault.reason : Fault → Text
  | .start => "invalid start byte"
  | .continuation => "invalid continuation byte"
  | .ended => "unexpected end of data"

def Undecodable.message (undecodable : Undecodable) : Text :=
  let place : Text :=
    if undecodable.following = 0 then
      "byte 0x" ++ Text.hexadecimal 2 undecodable.octet.toNat ++ " in position "
        ++ Text.ofNat undecodable.position
    else
      "bytes in position " ++ Text.ofNat undecodable.position ++ "-"
        ++ Text.ofNat (undecodable.position + undecodable.following)
  "'utf-8' codec can't decode " ++ place ++ ": " ++ undecodable.fault.reason

def Unencodable.message (unencodable : Unencodable) : Text :=
  let place : Text :=
    match unencodable.run with
    | [offset] =>
        "character '\\u" ++ Text.hexadecimal 4 (0xD800 + offset.val) ++ "' in position "
          ++ Text.ofNat unencodable.position
    | run =>
        "characters in position " ++ Text.ofNat unencodable.position ++ "-"
          ++ Text.ofNat (unencodable.position + run.length - 1)
  "'utf-8' codec can't encode " ++ place ++ ": surrogates not allowed"

end Utf8

end ShareProvisioner
