import ShareProvisioner.Json.Token

/-!
# Reading JSON

The reader takes one token after the other and keeps the lists and objects that are
still open.  At each place a few tokens are possible; the first one that is not
decides the fault, whatever comes behind it.
-/

namespace ShareProvisioner.Json

/-- A list or an object that is still open, with what it holds so far, last first. -/
inductive Frame where
  | array (items : List Json)
  | object (members : List (Text × Json)) (name : Text)

/-- How far the reading has come: what is expected next, and what is still open
around it. -/
inductive State where
  | expectValue (outer : List Frame)
  | expectFirstItem (outer : List Frame)
  | afterItem (items : List Json) (outer : List Frame)
  | expectFirstName (outer : List Frame)
  | expectName (members : List (Text × Json)) (outer : List Frame)
  | expectColon (members : List (Text × Json)) (name : Text) (outer : List Frame)
  | afterMember (members : List (Text × Json)) (outer : List Frame)
  | complete (value : Json)

def State.supply (value : Json) : List Frame → State
  | [] => .complete value
  | .array items :: outer => .afterItem (value :: items) outer
  | .object members name :: outer => .afterMember ((name, value) :: members) outer

/-- The reason why a token cannot be used: a problem at a distance behind its start,
or a numeral of too many digits. -/
inductive Refusal where
  | problem (problem : Problem) (offset : Nat)
  | longNumeral (digits : Nat)
deriving DecidableEq

def State.begin (outer : List Frame) : Token → Except Refusal State
  | .openObject => .ok (.expectFirstName outer)
  | .openArray => .ok (.expectFirstItem outer)
  | .text value => .ok (State.supply (.text value) outer)
  | .scalar value => .ok (State.supply value outer)
  | .brokenText problem offset => .error (.problem problem offset)
  | .longNumeral digits => .error (.longNumeral digits)
  | _ => .error (.problem .value 0)

def State.beginMember (members : List (Text × Json)) (outer : List Frame) :
    Token → Except Refusal State
  | .text name => .ok (.expectColon members name outer)
  | .brokenText problem offset => .error (.problem problem offset)
  | _ => .error (.problem .name 0)

/-- The object with the given members, last first; of several with one name the
first place and the last value remain. -/
def ofMembers (members : List (Text × Json)) : Json :=
  .object (Entries.ofList members.reverse)

def State.step : State → Token → Except Refusal State
  | .expectValue outer, token => State.begin outer token
  | .expectFirstItem outer, .closeArray => .ok (State.supply (.array []) outer)
  | .expectFirstItem outer, token => State.begin (.array [] :: outer) token
  | .afterItem items outer, .comma => .ok (.expectValue (.array items :: outer))
  | .afterItem items outer, .closeArray => .ok (State.supply (.array items.reverse) outer)
  | .afterItem _ _, _ => .error (.problem .comma 0)
  | .expectFirstName outer, .closeObject => .ok (State.supply (.object []) outer)
  | .expectFirstName outer, token => State.beginMember [] outer token
  | .expectName members outer, token => State.beginMember members outer token
  | .expectColon members name outer, .colon => .ok (.expectValue (.object members name :: outer))
  | .expectColon _ _ _, _ => .error (.problem .colon 0)
  | .afterMember members outer, .comma => .ok (.expectName members outer)
  | .afterMember members outer, .closeObject => .ok (State.supply (ofMembers members) outer)
  | .afterMember _ _, _ => .error (.problem .comma 0)
  | .complete _, _ => .error (.problem .extra 0)

def State.finish : State → Except Problem Json
  | .expectValue _ | .expectFirstItem _ => .error .value
  | .afterItem _ _ | .afterMember _ _ => .error .comma
  | .expectFirstName _ | .expectName _ _ => .error .name
  | .expectColon _ _ _ => .error .colon
  | .complete value => .ok value

/-- Why a document cannot be read: a problem with its position, or a numeral of too
many digits. -/
inductive Fault where
  | malformed (problem : Problem) (line column position : Nat)
  | longNumeral (digits : Nat)
deriving DecidableEq, Repr

/-- The fault for a problem at a position; lines and columns count from one. -/
def Fault.at (document : Text) (problem : Problem) (position : Nat) : Fault :=
  let before := document.take position
  .malformed problem (before.count (.char '\n') + 1)
    ((before.reverse.takeWhile (· ≠ .char '\n')).length + 1) position

def State.advance (document : Text) (state : State) (placed : Placed) : Except Fault State :=
  match state.step placed.token with
  | .ok next => .ok next
  | .error (.problem problem offset) =>
      .error (Fault.at document problem (placed.position + offset))
  | .error (.longNumeral digits) => .error (.longNumeral digits)

/-- The value of a document that does not start with a byte order mark. -/
def readUnmarked (document : Text) : Except Fault Json := do
  let state ← (tokens document).foldlM (State.advance document) (.expectValue [])
  match state.finish with
  | .ok value => return value
  | .error problem => throw (Fault.at document problem document.length)

/-- The value of a document.  Lists and objects may nest as deep as they like: the limit that
an interpreter sets to nesting is left out. -/
def read (document : Text) : Except Fault Json :=
  if document.head? = some (.char '\uFEFF') then .error (Fault.at document .byteOrderMark 0)
  else readUnmarked document

def Problem.message : Problem → Text
  | .value => "Expecting value"
  | .name => "Expecting property name enclosed in double quotes"
  | .colon => "Expecting ':' delimiter"
  | .comma => "Expecting ',' delimiter"
  | .extra => "Extra data"
  | .unterminated => "Unterminated string starting at"
  | .control => "Invalid control character at"
  | .escape => "Invalid \\escape"
  | .unicodeEscape => "Invalid \\uXXXX escape"
  | .byteOrderMark => "Unexpected UTF-8 BOM (decode using utf-8-sig)"

def Fault.message : Fault → Text
  | .malformed problem line column position =>
      problem.message ++ ": line " ++ Text.ofNat line ++ " column " ++ Text.ofNat column
        ++ " (char " ++ Text.ofNat position ++ ")"
  | .longNumeral digits =>
      "Exceeds the limit (" ++ Text.ofNat Text.maxDigits
        ++ " digits) for integer string conversion: value has " ++ Text.ofNat digits
        ++ " digits; use sys.set_int_max_str_digits() to increase the limit"

end ShareProvisioner.Json
