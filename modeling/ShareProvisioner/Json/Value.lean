import ShareProvisioner.Decimal.Shortest
import ShareProvisioner.Entries
import ShareProvisioner.Text.Quoted

/-!
# JSON values

Numbers without a fraction or an exponent are unbounded integers, all others are
binary floating point numbers; the members of an object keep the order in which
their names first arrived.
-/

namespace ShareProvisioner

inductive Json where
  | null
  | bool (value : Bool)
  | integer (value : Int)
  | float (value : Binary64)
  | text (value : Text)
  | array (items : List Json)
  | object (members : List (Text × Json))

namespace Json

instance : Coe Text Json := ⟨text⟩

/-! ## Equality -/

mutual

def same : Json → Json → Bool
  | null, null => true
  | bool left, bool right => left == right
  | integer left, integer right => left == right
  | float left, float right => left == right
  | text left, text right => left == right
  | array left, array right => sameItems left right
  | object left, object right => sameMembers left right
  | _, _ => false

def sameItems : List Json → List Json → Bool
  | [], [] => true
  | left :: lefts, right :: rights => same left right && sameItems lefts rights
  | _, _ => false

def sameMembers : List (Text × Json) → List (Text × Json) → Bool
  | [], [] => true
  | (leftName, left) :: lefts, (rightName, right) :: rights =>
      leftName == rightName && same left right && sameMembers lefts rights
  | _, _ => false

end

mutual

theorem same_iff : ∀ left right : Json, same left right = true ↔ left = right
  | null, right => by cases right <;> simp [same]
  | bool _, right => by cases right <;> simp [same]
  | integer _, right => by cases right <;> simp [same]
  | float _, right => by cases right <;> simp [same]
  | text _, right => by cases right <;> simp [same]
  | array lefts, right => by
      cases right with
      | array rights => simpa [same] using sameItems_iff lefts rights
      | _ => simp [same]
  | object lefts, right => by
      cases right with
      | object rights => simpa [same] using sameMembers_iff lefts rights
      | _ => simp [same]

theorem sameItems_iff : ∀ lefts rights : List Json, sameItems lefts rights = true ↔ lefts = rights
  | [], rights => by cases rights <;> simp [sameItems]
  | left :: lefts, rights => by
      cases rights with
      | nil => simp [sameItems]
      | cons right rights => simp [sameItems, same_iff left right, sameItems_iff lefts rights]

theorem sameMembers_iff : ∀ lefts rights : List (Text × Json),
    sameMembers lefts rights = true ↔ lefts = rights
  | [], rights => by cases rights <;> simp [sameMembers]
  | (leftName, left) :: lefts, rights => by
      cases rights with
      | nil => simp [sameMembers]
      | cons right rights =>
          simp [sameMembers, same_iff left right.2, sameMembers_iff lefts rights, Prod.ext_iff]

end

instance : DecidableEq Json := fun left right =>
  decidable_of_iff (same left right = true) (same_iff left right)

/-! ## Content -/

/-- Whether the value says something: null, false, zero, and whatever is empty do not. -/
def isTruthy : Json → Bool
  | null => false
  | bool value => value
  | integer value => value ≠ 0
  | float value => !value.isZero
  | text value => !value.isEmpty
  | array items => !items.isEmpty
  | object members => !members.isEmpty

def orElse (value default : Json) : Json :=
  if value.isTruthy then value else default

/-- The member of the given name; an absent one counts as null. -/
def member (members : List (Text × Json)) (name : Text) : Json :=
  (Entries.find? members name).getD null

/-! ## Display

Messages show a text as it is and everything else in a notation of its own, in
which the texts inside a list or an object are quoted. -/

def displayBool (value : Bool) : Text :=
  if value then "True" else "False"

mutual

/-- The value as it stands inside a list or an object. -/
def quoted : Json → Text
  | null => "None"
  | bool value => displayBool value
  | integer value => Text.ofInt value
  | float value => value.display
  | text value => value.quoted
  | array items => "[" ++ Text.join ", " (quotedItems items) ++ "]"
  | object members => "\x7b" ++ Text.join ", " (quotedMembers members) ++ "\x7d"

def quotedItems : List Json → List Text
  | [] => []
  | item :: items => quoted item :: quotedItems items

def quotedMembers : List (Text × Json) → List Text
  | [] => []
  | (name, value) :: members => (name.quoted ++ ": " ++ quoted value) :: quotedMembers members

end

def display : Json → Text
  | text value => value
  | value => quoted value

end Json

end ShareProvisioner
