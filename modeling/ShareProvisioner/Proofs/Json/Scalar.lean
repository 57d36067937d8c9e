import ShareProvisioner.Mapping
import ShareProvisioner.Proofs.Entries
import ShareProvisioner.Proofs.Text.Scalar

/-!
# Values without lone surrogates

Being without lone surrogates passes from a value to everything in it.  For a value to be
shown by a text that can be sent only a text is in question, since everything inside a list
or an object is shown quoted.
-/

namespace ShareProvisioner

namespace Json

mutual

/-- Whether no text in the value, names of members included, has a lone surrogate. -/
def isScalar : Json → Bool
  | null | bool _ | integer _ | float _ => true
  | text value => value.isScalar
  | array items => areScalar items
  | object members => haveScalar members

def areScalar : List Json → Bool
  | [] => true
  | item :: items => isScalar item && areScalar items

def haveScalar : List (Text × Json) → Bool
  | [] => true
  | (name, value) :: members => name.isScalar && isScalar value && haveScalar members

end

@[simp] theorem isScalar_null : isScalar null = true := rfl

@[simp] theorem isScalar_text (value : Text) : (text value).isScalar = value.isScalar := rfl

theorem isScalar_array_iff {items : List Json} :
    (array items).isScalar = true ↔ ∀ item ∈ items, item.isScalar = true := by
  change areScalar items = true ↔ _
  induction items with
  | nil => simp [areScalar]
  | cons item items induction => simp [areScalar, induction]

theorem isScalar_object_iff {members : List (Text × Json)} :
    (object members).isScalar = true
      ↔ ∀ entry ∈ members, entry.1.isScalar = true ∧ entry.2.isScalar = true := by
  change haveScalar members = true ↔ _
  induction members with
  | nil => simp [haveScalar]
  | cons entry members induction => simp [haveScalar, induction, and_assoc]

/-! ## Showing -/

mutual

theorem isScalar_quoted : ∀ value : Json, value.quoted.isScalar = true
  | null => by simp [quoted]
  | bool value => by cases value <;> simp [quoted, displayBool]
  | integer value => Text.isScalar_ofInt value
  | float value => value.isScalar_display
  | text value => Text.isScalar_quoted value
  | array items => by
      have inside : (Text.join ", " (quotedItems items)).isScalar = true :=
        Text.isScalar_join (Text.isScalar_ofString _) (isScalar_quotedItems items)
      simp [quoted, inside]
  | object members => by
      have inside : (Text.join ", " (quotedMembers members)).isScalar = true :=
        Text.isScalar_join (Text.isScalar_ofString _) (isScalar_quotedMembers members)
      simp [quoted, inside]

theorem isScalar_quotedItems : ∀ items : List Json,
    ∀ shown ∈ quotedItems items, shown.isScalar = true
  | [] => by simp [quotedItems]
  | item :: items =>
      List.forall_mem_cons.mpr ⟨isScalar_quoted item, isScalar_quotedItems items⟩

theorem isScalar_quotedMembers : ∀ members : List (Text × Json),
    ∀ shown ∈ quotedMembers members, shown.isScalar = true
  | [] => by simp [quotedMembers]
  | (_, value) :: members =>
      List.forall_mem_cons.mpr ⟨by simp [isScalar_quoted value], isScalar_quotedMembers members⟩

end

theorem isScalar_display {value : Json} (scalar : value.isScalar = true) :
    value.display.isScalar = true := by
  cases value with
  | text value => exact scalar
  | _ => exact isScalar_quoted _

/-! ## Parts -/

theorem isScalar_orElse {value default : Json} (scalar : value.isScalar = true)
    (defaultScalar : default.isScalar = true) : (value.orElse default).isScalar = true := by
  unfold orElse
  split
  · exact scalar
  · exact defaultScalar

theorem isScalar_member {members : List (Text × Json)}
    (scalar : (object members).isScalar = true) (name : Text) :
    (member members name).isScalar = true := by
  unfold member
  cases found : Entries.find? members name with
  | none => rfl
  | some value =>
      rcases Entries.mem_of_find? found with ⟨present, _, inside⟩
      exact (isScalar_object_iff.mp scalar _ inside).2

theorem isScalar_of_elements {value : Json} {elements : List Json}
    (scalar : value.isScalar = true) (found : value.elements? = some elements) :
    ∀ element ∈ elements, element.isScalar = true := by
  cases value with
  | array items =>
      cases found
      exact isScalar_array_iff.mp scalar
  | object members =>
      cases found
      intro element inside
      rcases List.mem_map.mp inside with ⟨entry, isMember, rfl⟩
      exact (isScalar_object_iff.mp scalar entry isMember).1
  | text value =>
      cases found
      intro element inside
      rcases List.mem_map.mp inside with ⟨codePoint, isPart, rfl⟩
      simp [Text.isScalar_iff.mp scalar codePoint isPart]
  | _ => cases found

end Json

/-! ## Mappings -/

namespace Mapping

/-- Whether no value of a mapping holds a lone surrogate. -/
def HasScalarValues (mapping : Mapping) : Prop :=
  ∀ value ∈ mapping.map Prod.snd, value.isScalar = true

theorem HasScalarValues.insert {mapping : Mapping} (scalar : mapping.HasScalarValues) (key : Key)
    {value : Json} (valueScalar : value.isScalar = true) :
    HasScalarValues (Entries.insert mapping key value) := by
  intro other member
  rcases List.mem_cons.mp (Entries.values_insert_subset mapping key value member) with rfl | present
  · exact valueScalar
  · exact scalar other present

theorem HasScalarValues.of_insertPairs {pairs : List Json} {mapping result : Mapping} {index : Nat}
    (scalar : mapping.HasScalarValues) (pairsScalar : ∀ pair ∈ pairs, pair.isScalar = true)
    (written : insertPairs mapping index pairs = .ok result) : result.HasScalarValues := by
  induction pairs generalizing mapping index with
  | nil =>
      cases written
      exact scalar
  | cons pair pairs induction =>
      have rest := fun other member => pairsScalar other (List.mem_cons_of_mem _ member)
      unfold insertPairs at written
      split at written
      · cases written
      · next name value found =>
          have valueScalar := Json.isScalar_of_elements (pairsScalar pair (by simp)) found value
            (by simp)
          split at written
          · cases written
          · exact induction (scalar.insert _ valueScalar) rest written
      · cases written

theorem HasScalarValues.of_ofJson {value : Json} {mapping : Mapping}
    (scalar : value.isScalar = true) (read : ofJson value = .ok mapping) :
    mapping.HasScalarValues := by
  have empty : HasScalarValues [] := by simp [HasScalarValues]
  unfold ofJson at read
  split at read
  · split at read
    · next members =>
        cases read
        intro other inside
        simp only [ofMembers, List.map_map, List.mem_map, Function.comp_apply] at inside
        rcases inside with ⟨entry, isMember, rfl⟩
        exact (Json.isScalar_object_iff.mp scalar entry isMember).2
    · unfold Json.elements at read
      cases found : value.elements? with
      | none =>
          rw [found] at read
          cases read
      | some elements =>
          rw [found] at read
          exact empty.of_insertPairs (Json.isScalar_of_elements scalar found) read
  · cases read
    exact empty

end Mapping

end ShareProvisioner
