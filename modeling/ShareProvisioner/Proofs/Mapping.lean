import ShareProvisioner.Proofs.Entries
import ShareProvisioner.Proofs.Json.Content
import ShareProvisioner.Proofs.Json.Shape

/-!
# Mappings in values

A mapping whose keys are texts is written as an object with just its entries for members,
so it is read back as it was.  A value is read as a mapping exactly if its shape allows it.
-/

namespace ShareProvisioner.Mapping

def HasTextKeys (mapping : Mapping) : Prop :=
  ∀ key ∈ mapping.map Prod.fst, ∃ name, key = Key.text name

theorem hasTextKeys_ofMembers (members : List (Text × Json)) : (ofMembers members).HasTextKeys := by
  intro key member
  simp only [ofMembers, List.map_map, List.mem_map, Function.comp_apply] at member
  rcases member with ⟨entry, _, rfl⟩
  exact ⟨entry.1, rfl⟩

theorem HasTextKeys.insert {mapping : Mapping} (texts : mapping.HasTextKeys) (name : Text)
    (value : Json) : HasTextKeys (Entries.insert mapping (.text name) value) := by
  intro key member
  rcases List.mem_cons.mp (Entries.keys_insert_subset mapping _ value member) with rfl | present
  · exact ⟨name, rfl⟩
  · exact texts key present

theorem HasTextKeys.insertAll {mapping : Mapping} (texts : mapping.HasTextKeys)
    (members : List (Text × Json)) :
    HasTextKeys (Entries.insertAll mapping (ofMembers members)) := by
  unfold Entries.insertAll ofMembers
  induction members generalizing mapping with
  | nil => exact texts
  | cons entry rest induction => exact induction (texts.insert entry.1 entry.2)

theorem HasTextKeys.foldl_erase {mapping : Mapping} (texts : mapping.HasTextKeys)
    (names : List Text) :
    HasTextKeys (names.foldl (fun kept name => Entries.erase kept (.text name)) mapping) := by
  induction names generalizing mapping with
  | nil => exact texts
  | cons name names induction =>
      refine induction fun key member => texts key ?_
      exact ((List.filter_sublist (l := mapping)).map Prod.fst).subset member

def HasTextValues (mapping : Mapping) : Prop :=
  ∀ value ∈ mapping.map Prod.snd, value.IsText

theorem HasTextValues.insertAll {mapping : Mapping} (texts : mapping.HasTextValues)
    {members : List (Text × Json)} (memberTexts : ∀ member ∈ members, member.2.IsText) :
    HasTextValues (Entries.insertAll mapping (ofMembers members)) := by
  unfold Entries.insertAll ofMembers
  induction members generalizing mapping with
  | nil => exact texts
  | cons entry rest induction =>
      refine induction (fun value member => ?_) fun other member =>
        memberTexts other (List.mem_cons_of_mem _ member)
      rcases List.mem_cons.mp (Entries.values_insert_subset mapping _ _ member) with rfl | present
      · exact memberTexts entry List.mem_cons_self
      · exact texts value present

/-- Texts given for texts are a mapping of texts. -/
theorem ofTexts_isTextual (pairs : List (Text × Text)) :
    (ofTexts pairs).HasTextKeys ∧ (ofTexts pairs).HasTextValues := by
  have written : ofTexts pairs
      = Entries.insertAll [] (ofMembers (pairs.map fun pair => (pair.1, .text pair.2))) := by
    unfold ofTexts ofMembers Entries.ofList
    rw [List.map_map]
    rfl
  have values : ∀ member ∈ pairs.map fun pair => (pair.1, Json.text pair.2),
      member.2.IsText := by
    intro member inside
    rcases List.mem_map.mp inside with ⟨pair, _, rfl⟩
    exact ⟨pair.2, rfl⟩
  rw [written]
  exact ⟨HasTextKeys.insertAll (by simp [HasTextKeys]) _,
    HasTextValues.insertAll (by simp [HasTextValues]) values⟩

theorem ofMembers_memberNames {mapping : Mapping} (texts : mapping.HasTextKeys) :
    ofMembers (mapping.map fun (key, value) => (key.memberName, value)) = mapping := by
  unfold ofMembers
  induction mapping with
  | nil => rfl
  | cons entry rest induction =>
      rcases texts entry.1 (by simp) with ⟨name, isText⟩
      have restTexts := induction fun key member => texts key (List.mem_cons_of_mem _ member)
      rw [List.map_cons, List.map_cons, restTexts]
      exact congrArg (· :: rest) (Prod.ext (by simp [isText, Key.memberName]) rfl)

theorem find?_ofMembers (members : List (Text × Json)) (name : Text) :
    Entries.find? (ofMembers members) (.text name) = Entries.find? members name := by
  unfold ofMembers
  induction members with
  | nil => rfl
  | cons entry rest induction =>
      rw [List.map_cons, Entries.find?_cons, Entries.find?_cons, induction]
      simp [Key.text_beq_text]

theorem ofJson_object (members : List (Text × Json)) :
    ofJson (.object members) = .ok (ofMembers members) := by
  cases members <;> rfl

/-- Whether two mappings are the same up to the order of their entries. -/
def Agrees (left right : Mapping) : Prop :=
  ∀ key : Key, left.find? key = right.find? key

/-- What a mapping is written as is read as that mapping. -/
theorem ofJson_toJson {mapping : Mapping} (texts : mapping.HasTextKeys) :
    ofJson mapping.toJson = .ok mapping := by
  rw [toJson, ofJson_object, ofMembers_memberNames texts]

/-- A mapping that is given as an object, or not at all, has texts for keys. -/
theorem hasTextKeys_of_ofJson {value : Json} {mapping : Mapping} (like : value.IsObjectLike)
    (read : ofJson value = .ok mapping) : mapping.HasTextKeys := by
  cases like with
  | object members =>
      rw [ofJson_object] at read
      cases read
      exact hasTextKeys_ofMembers members
  | silent silent =>
      unfold ofJson at read
      rw [if_neg (Bool.eq_false_iff.mp silent)] at read
      cases read
      exact nofun

/-! ## Reading any value -/

/-- Pairs can be written to a mapping exactly if all of them are pairs. -/
theorem exists_insertPairs_iff (mapping : Mapping) (index : Nat) (items : List Json) :
    (∃ result, insertPairs mapping index items = .ok result)
      ↔ ∀ item ∈ items, item.IsPairLike := by
  induction items generalizing mapping index with
  | nil => exact ⟨fun _ => nofun, fun _ => ⟨mapping, rfl⟩⟩
  | cons item rest induction =>
      rw [List.forall_mem_cons, insertPairs]
      constructor
      · intro writes
        rcases writes with ⟨result, written⟩
        split at written
        · cases written
        · next name value elements =>
            cases scalar : Key.ofJson? name with
            | none =>
                rw [scalar] at written
                cases written
            | some key =>
                rw [scalar] at written
                rw [Json.ofJson?_eq_some_iff.mp scalar] at elements
                exact ⟨Json.isPairLike_iff.mpr ⟨key, value, elements⟩,
                  (induction _ _).mp ⟨result, written⟩⟩
        · cases written
      · intro pairs
        rcases Json.isPairLike_iff.mp pairs.1 with ⟨key, value, elements⟩
        rw [elements]
        dsimp only
        rw [Json.ofJson?_eq_some_iff.mpr rfl]
        exact (induction _ _).mpr pairs.2

theorem ofJson_array (items : List Json) : ofJson (.array items) = insertPairs [] 0 items := by
  cases items <;> rfl

theorem ofJson_text_cons (first : CodePoint) (rest : Text) :
    ofJson (.text (first :: rest)) = .error (.notPair 0 1) := rfl

/-- The values that can be turned into a mapping. -/
theorem exists_ofJson_iff {value : Json} :
    (∃ mapping, ofJson value = .ok mapping) ↔ value.IsMappingLike := by
  cases value with
  | object members => exact ⟨fun _ => .object members, fun _ => ⟨_, ofJson_object members⟩⟩
  | array items =>
      rw [ofJson_array, exists_insertPairs_iff]
      refine ⟨.pairs, fun like => ?_⟩
      cases like with
      | pairs pairs => exact pairs
      | silent silent =>
          cases items with
          | nil => exact nofun
          | cons first rest => cases silent
  | text value =>
      cases value with
      | nil => exact ⟨fun _ => .silent rfl, fun _ => ⟨[], rfl⟩⟩
      | cons first rest =>
          rw [ofJson_text_cons]
          exact ⟨nofun, nofun⟩
  | _ =>
      unfold ofJson
      split
      · next truthy =>
          refine ⟨nofun, fun like => ?_⟩
          cases like with
          | silent silent => exact nomatch truthy.symm.trans silent
      · next silent =>
          exact ⟨fun _ => .silent (Bool.eq_false_iff.mpr silent), fun _ => ⟨[], rfl⟩⟩

end ShareProvisioner.Mapping
