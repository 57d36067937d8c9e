import ShareProvisioner.Failure.Fault

/-!
# Mappings with scalar keys

A document may give a mapping as an object or as a list of pairs, so its keys are
scalars of any kind.  Keys that stand for the same number are one key, whether written
as an integer, as a floating point number or as a truth value.
-/

namespace ShareProvisioner

inductive Key where
  | null
  | bool (value : Bool)
  | integer (value : Int)
  | float (value : Binary64)
  | text (value : Text)
deriving DecidableEq, Repr

namespace Key

instance : Coe Text Key := ⟨text⟩

def wholeValue? : Binary64 → Option Int
  | .finite negative mantissa exponent =>
      let magnitude := mantissa * Nat.pow 2 exponent.toNat
      let divisor := Nat.pow 2 (-exponent).toNat
      if magnitude % divisor = 0 then
        let whole := Int.ofNat (magnitude / divisor)
        some (if negative then -whole else whole)
      else none
  | _ => none

/-- One form for all spellings of a number. -/
def canonical : Key → Key
  | bool value => integer (if value then 1 else 0)
  | float value =>
      match wholeValue? value with
      | some whole => integer whole
      | none => float value
  | key => key

instance : BEq Key := ⟨fun left right => decide (left.canonical = right.canonical)⟩

example : (bool true == float (Binary64.ofDecimal false 10 (-1))) = true := by decide +kernel

def toJson : Key → Json
  | null => .null
  | bool value => .bool value
  | integer value => .integer value
  | float value => .float value
  | text value => .text value

/-- The key that a scalar is; a list or an object is none. -/
def ofJson? : Json → Option Key
  | .null => some null
  | .bool value => some (bool value)
  | .integer value => some (integer value)
  | .float value => some (float value)
  | .text value => some (text value)
  | .array _ | .object _ => none

def memberName : Key → Text
  | null => "null"
  | bool value => if value then "true" else "false"
  | integer value => Text.ofInt value
  | float (.infinity negative) => if negative then "-Infinity" else "Infinity"
  | float .nan => "NaN"
  | float value => value.display
  | text value => value

end Key

abbrev Mapping := Entries Key Json

namespace Json

/-- The elements of a value that can be walked through: the items of a list, the names
of an object's members, the code points of a text. -/
def elements? : Json → Option (List Json)
  | array items => some items
  | object members => some (members.map fun (name, _) => text name)
  | text value => some (value.map fun codePoint => text [codePoint])
  | _ => none

def elements (value : Json) : Except Failure.Fault (List Json) :=
  match value.elements? with
  | some items => .ok items
  | none => .error (.notIterable value)

end Json

namespace Mapping

def ofTexts (pairs : List (Text × Text)) : Mapping :=
  Entries.ofList (pairs.map fun (key, value) => (Key.text key, Json.text value))

def ofMembers (members : List (Text × Json)) : Mapping :=
  members.map fun (name, value) => (Key.text name, value)

/-- Writes the pairs to a mapping, the first of which is number `index`. -/
def insertPairs (mapping : Mapping) (index : Nat) : List Json → Except Failure.Fault Mapping
  | [] => .ok mapping
  | element :: rest =>
      match element.elements? with
      | none => .error (.notSequence index)
      | some [name, value] =>
          match Key.ofJson? name with
          | none => .error (.notKey name)
          | some key => insertPairs (Entries.insert mapping key value) (index + 1) rest
      | some items => .error (.notPair index items.length)

/-- The mapping that a value gives: an object its members, a list its pairs; a value
that says nothing is the empty mapping. -/
def ofJson (value : Json) : Except Failure.Fault Mapping :=
  if value.isTruthy then
    match value with
    | .object members => .ok (ofMembers members)
    | _ => do insertPairs [] 0 (← value.elements)
  else .ok []

def toJson (mapping : Mapping) : Json :=
  .object (mapping.map fun (key, value) => (key.memberName, value))

end Mapping

end ShareProvisioner
