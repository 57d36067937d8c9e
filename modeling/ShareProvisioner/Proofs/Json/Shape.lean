import Mathlib.Data.List.Basic
import ShareProvisioner.Mapping

/-!
# Shapes of values

A reader that takes a value for an object, a list or a mapping can cope with more than
just these.  A value that says nothing counts as absent; an object or a text can be
walked through like a list; whatever has two elements can stand for a pair, if the first
one is a key.
-/

namespace ShareProvisioner.Json

/-! ## Paths -/

/-- The members of an object; any other value has none. -/
def members : Json → List (Text × Json)
  | object members => members
  | _ => []

/-- The value at the end of a path of names; null where the path leaves the objects. -/
def along (value : Json) : List Text → Json
  | [] => value
  | name :: path => along (member value.members name) path

/-! ## The shapes -/

/-- Whether members can be looked up in a value. -/
inductive IsObjectLike : Json → Prop
  | object (members : List (Text × Json)) : IsObjectLike (object members)
  | silent {value : Json} (silent : value.isTruthy = false) : IsObjectLike value

/-- Whether a value can be walked through. -/
inductive IsListLike : Json → Prop
  | array (items : List Json) : IsListLike (array items)
  | object (members : List (Text × Json)) : IsListLike (object members)
  | text (value : Text) : IsListLike (text value)
  | silent {value : Json} (silent : value.isTruthy = false) : IsListLike value

/-- Whether a value can stand for a key with its value. -/
inductive IsPairLike : Json → Prop
  | array (key : Key) (value : Json) : IsPairLike (array [key.toJson, value])
  | object (first second : Text × Json) : IsPairLike (object [first, second])
  | text (first second : CodePoint) : IsPairLike (text [first, second])

/-- Whether a value can be turned into a mapping. -/
inductive IsMappingLike : Json → Prop
  | object (members : List (Text × Json)) : IsMappingLike (object members)
  | pairs {items : List Json} (pairs : ∀ item ∈ items, item.IsPairLike) :
      IsMappingLike (array items)
  | silent {value : Json} (silent : value.isTruthy = false) : IsMappingLike value

variable {value : Json}

theorem isListLike_iff : value.IsListLike ↔ value.isTruthy = false ∨ value.elements?.isSome := by
  constructor
  · intro like
    cases like with
    | array | object | text => exact .inr rfl
    | silent silent => exact .inl silent
  · intro walkable
    rcases walkable with silent | walkable
    · exact .silent silent
    · cases value with
      | array items => exact .array items
      | object members => exact .object members
      | text value => exact .text value
      | _ => cases walkable

theorem ofJson?_eq_some_iff {key : Key} : Key.ofJson? value = some key ↔ value = key.toJson := by
  constructor
  · intro scalar
    cases value with
    | array | object => cases scalar
    | _ => cases scalar; rfl
  · intro same
    rw [same]
    cases key <;> rfl

/-- A pair is a value with two elements the first of which is a key. -/
theorem isPairLike_iff : value.IsPairLike
    ↔ ∃ (key : Key) (second : Json), value.elements? = some [key.toJson, second] := by
  constructor
  · intro like
    cases like with
    | array key second => exact ⟨key, second, rfl⟩
    | object first second => exact ⟨.text first.1, .text second.1, rfl⟩
    | text first second => exact ⟨.text [first], .text [second], rfl⟩
  · intro pair
    rcases pair with ⟨key, second, elements⟩
    cases value with
    | array items =>
        cases elements
        exact .array key second
    | object members =>
        have two := congrArg List.length (Option.some.inj elements)
        rw [List.length_map] at two
        rcases List.length_eq_two.mp two with ⟨first, second, rfl⟩
        exact .object first second
    | text value =>
        have two := congrArg List.length (Option.some.inj elements)
        rw [List.length_map] at two
        rcases List.length_eq_two.mp two with ⟨first, second, rfl⟩
        exact .text first second
    | _ => cases elements

end ShareProvisioner.Json
