import ShareProvisioner.Proofs.Agent.Record
import ShareProvisioner.Proofs.Entries
import ShareProvisioner.Proofs.Failure.Notice
import ShareProvisioner.Proofs.Json.Reader

/-!
# What makes a record

The output of an agent makes a record if it is an object in which the last member of each of
three names says something, whatever else is in it and however it is written.
-/

namespace ShareProvisioner.Agent

/-! ## Fields -/

section Fields

variable {members : List (Text × Json)} {name : Text} {value : Json}

/-- Whether the last of the members with a name says something. -/
structure Gives (members : List (Text × Json)) (name : Text) (value : Json) : Prop where
  last : Entries.IsLast members name value
  speaks : ¬value.SaysNothing

theorem member_of_isLast (last : Entries.IsLast members name value) :
    Json.member (Entries.ofList members) name = value := by
  rw [Json.member, Entries.find?_ofList_eq_some_iff.mpr last]
  rfl

theorem gives_iff : Gives members name value
    ↔ Json.member (Entries.ofList members) name = value ∧ value.isTruthy = true := by
  constructor
  · intro gives
    refine ⟨member_of_isLast gives.last, ?_⟩
    rw [← Bool.not_eq_false, Json.isTruthy_eq_false_iff]
    exact gives.speaks
  · rintro ⟨rfl, truthy⟩
    have speaks : ¬(Json.member (Entries.ofList members) name).SaysNothing := by
      rw [← Json.isTruthy_eq_false_iff, truthy]
      exact nofun
    refine ⟨Entries.find?_ofList_eq_some_iff.mp ?_, speaks⟩
    cases found : Entries.find? (Entries.ofList members) name with
    | some value => rw [Json.member, found]; rfl
    | none =>
        rw [Json.member, found] at truthy
        cases truthy

theorem mem_missing_iff {field : Failure.RecordField} :
    field ∈ Record.missing (Entries.ofList members) ↔ ¬∃ value, Gives members field.name value := by
  have listed : field ∈ [Failure.RecordField.path, .user, .auth] := by cases field <;> simp
  simp [Record.missing, gives_iff, listed]

end Fields

/-! ## Records -/

namespace Record

def fieldNames : List Text :=
  ["path", "user", "auth"]

/-- Whether names are those of the fields that members do not give, in their order. -/
structure IsMissing (members : List (Text × Json)) (names : List Text) : Prop where
  order : names.Sublist fieldNames
  mem_iff : ∀ name ∈ fieldNames, name ∈ names ↔ ¬∃ value, Gives members name value

variable {output : Text} {members : List (Text × Json)}

theorem isMissing_missing (members : List (Text × Json)) :
    IsMissing members ((missing (Entries.ofList members)).map Failure.RecordField.name) where
  order := List.Sublist.map Failure.RecordField.name List.filter_sublist
  mem_iff := by
    have ofField (field : Failure.RecordField) :
        field.name ∈ (missing (Entries.ofList members)).map Failure.RecordField.name
          ↔ ¬∃ value, Gives members field.name value := by
      have injective : Function.Injective Failure.RecordField.name := by
        intro field other same
        cases field <;> cases other <;> first | rfl | cases same
      rw [List.mem_map_of_injective injective, mem_missing_iff]
    intro name isName
    simp only [fieldNames, List.mem_cons, List.not_mem_nil, or_false] at isName
    rcases isName with rfl | rfl | rfl
    · exact ofField .path
    · exact ofField .user
    · exact ofField .auth

theorem parse_eq_ok_iff_gives (lists : Json.ListsMembers output members) {record : Record} :
    parse output = .ok record ↔ ∃ path user key, Gives members "path" path
      ∧ Gives members "user" user ∧ Gives members "auth" key
      ∧ record = ⟨path.display, user.display, key.display⟩ := by
  rw [parse_eq_ok_iff, Json.read_eq_object_iff.mpr ⟨members, lists, rfl⟩]
  constructor
  · rintro ⟨_, ⟨⟩, truthy, rfl⟩
    exact ⟨_, _, _, gives_iff.mpr ⟨rfl, truthy .path⟩, gives_iff.mpr ⟨rfl, truthy .user⟩,
      gives_iff.mpr ⟨rfl, truthy .auth⟩, rfl⟩
  · rintro ⟨path, user, key, givesPath, givesUser, givesKey, rfl⟩
    rcases gives_iff.mp givesPath with ⟨rfl, pathTruthy⟩
    rcases gives_iff.mp givesUser with ⟨rfl, userTruthy⟩
    rcases gives_iff.mp givesKey with ⟨rfl, keyTruthy⟩
    refine ⟨_, rfl, fun field => ?_, rfl⟩
    cases field with
    | path => exact pathTruthy
    | user => exact userTruthy
    | auth => exact keyTruthy

theorem parse_of_incomplete (lists : Json.ListsMembers output members)
    (refused : ∀ record, parse output ≠ .ok record) :
    parse output = .error (.badRecord (.incomplete (missing (Entries.ofList members))) output) := by
  unfold parse at refused ⊢
  rw [Json.read_eq_object_iff.mpr ⟨members, lists, rfl⟩] at refused ⊢
  dsimp only at refused ⊢
  split
  · next complete => exact absurd (if_pos complete) (refused _)
  · rfl

theorem texts_of_parse (lists : Json.ListsMembers output members) {record : Record}
    (parsed : parse output = .ok record) (text : Text) :
    (Entries.IsLast members "path" (.text text) → record.path = text)
      ∧ (Entries.IsLast members "user" (.text text) → record.user = text)
      ∧ (Entries.IsLast members "auth" (.text text) → record.key = text) := by
  rcases parse_eq_ok_iff.mp parsed with ⟨_, read, _, rfl⟩
  cases read.symm.trans (Json.read_eq_object_iff.mpr ⟨members, lists, rfl⟩)
  have shown {name : Text} (last : Entries.IsLast members name (.text text)) :
      (Json.member (Entries.ofList members) name).display = text := by
    rw [member_of_isLast last]
    rfl
  exact ⟨shown, shown, shown⟩

theorem exists_listsMembers_of_parse {record : Record} (parsed : parse output = .ok record) :
    ∃ members, Json.ListsMembers output members := by
  rcases parse_eq_ok_iff.mp parsed with ⟨_, read, _⟩
  rcases Json.read_eq_object_iff.mp read with ⟨members, lists, _⟩
  exact ⟨members, lists⟩

/-- A document is taken for a record if the last members of the three names say something, and
then shows them as texts.  Else it is refused with all of itself, and if it is an object with the
names of the fields that are missing. -/
theorem parse_accepts_complete (output : Text) :
    (∀ members, Json.ListsMembers output members →
      (∀ record, parse output = .ok record ↔ ∃ path user key, Gives members "path" path
        ∧ Gives members "user" user ∧ Gives members "auth" key
        ∧ record = ⟨path.display, user.display, key.display⟩)
      ∧ ((∀ record, parse output ≠ .ok record) → ∃ names, IsMissing members names
        ∧ (Failure.Notice.badOutput ("missing " ++ Text.join ", " names) output).Ends
          ((parse output).mapError .declared)))
      ∧ (∀ record, parse output = .ok record → record.IsComplete
        ∧ ∀ members, Json.ListsMembers output members → ∀ text : Text,
          (Entries.IsLast members "path" (.text text) → record.path = text)
          ∧ (Entries.IsLast members "user" (.text text) → record.user = text)
          ∧ (Entries.IsLast members "auth" (.text text) → record.key = text))
      ∧ ((∀ members, ¬Json.ListsMembers output members) →
        ∃ details, (Failure.Notice.badOutput details output).Ends
          ((parse output).mapError .declared)) := by
  refine ⟨fun members lists => ⟨fun record => parse_eq_ok_iff_gives lists, fun refused => ?_⟩,
    fun record parsed => ⟨parse_isComplete parsed, fun members lists =>
      texts_of_parse lists parsed⟩, fun noObject => ?_⟩
  · rw [parse_of_incomplete lists refused]
    refine ⟨_, isMissing_missing members, _, rfl, ?_⟩
    rw [Failure.Notice.ofCause_badRecord]
    rfl
  · cases parsed : parse output with
    | ok record =>
        rcases exists_listsMembers_of_parse parsed with ⟨members, lists⟩
        exact absurd lists (noObject members)
    | error cause =>
        rcases refusal_of_parse parsed with ⟨problem, rfl⟩
        exact ⟨_, _, rfl, Failure.Notice.ofCause_badRecord problem output⟩

/-! ### A sample -/

def sampleMembers : List (Text × Json) :=
  [("user", .text "u"), ("path", .text ""), ("auth", .text "k"), ("path", .text "😀")]

def sampleOutput : Text :=
  "\x7b\"user\":\"u\", \"path\":\"\",\"auth\":\"k\",\"path\":\"\\ud83d\\ude00\"\x7d"

theorem sampleOutput_listsMembers : Json.ListsMembers sampleOutput sampleMembers := by
  have noSpaces := Json.isSpaces_nil
  have oneSpace : Json.IsSpaces " " := by decide
  have name {spaces : Text} (name : Text) (plain : ∀ codePoint ∈ name, Json.isPlain codePoint = true)
      (isSpaces : Json.IsSpaces spaces) :
      Json.WritesName name (spaces ++ .char '"' :: (name ++ [.char '"'])) :=
    .mk isSpaces (Json.spells_of_isPlain plain) noSpaces
  have value {text written : Text} (spells : Json.Spells text written) :
      Json.Writes (.element (.text text)) (.char '"' :: (written ++ [.char '"'])) := by
    have whole := Json.Writes.element noSpaces (.text spells) noSpaces
    rwa [List.append_nil] at whole
  have letter (letter : Char) (plain : Json.isPlain letter = true) : Json.Spells [letter] [letter] :=
    Json.spells_of_isPlain (by simpa using plain)
  have face := @Json.Spells.pair 'd' '8' '3' 'd' 'd' 'e' '0' '0' 0x3D 0x600 [] [] (by decide)
    (by decide) (by decide) (by decide) .nil
  have isFace : Char.ofNat (0x10000 + 0x400 * (0x3D : Fin 0x800).val
      + ((0x600 : Fin 0x800).val - 0x400)) = '😀' := by decide
  rw [isFace] at face
  have first := Json.Writes.firstMember (name "user" (by decide) noSpaces)
    (value (letter 'u' (by decide)))
  have second := first.nextMember (name "path" (by decide) oneSpace) (value .nil)
  have third := second.nextMember (name "auth" (by decide) noSpaces)
    (value (letter 'k' (by decide)))
  have fourth := third.nextMember (name "path" (by decide) noSpaces) (value face)
  exact ⟨[], _, [], noSpaces, .someObject fourth, noSpaces, by decide +kernel⟩

/-- The last path counts and is read as one character, though it is escaped as two surrogates; an
empty object lacks all fields, and an empty list has none. -/
theorem parse_accepts_complete_sample :
    (Json.ListsMembers sampleOutput sampleMembers
        ∧ parse sampleOutput = .ok ⟨"😀", "u", "k"⟩)
      ∧ (Json.ListsMembers "\x7b\x7d" [] ∧ (∀ record, parse "\x7b\x7d" ≠ .ok record)
        ∧ ∃ names, IsMissing [] names ∧ (Failure.Notice.badOutput
          ("missing " ++ Text.join ", " names) "\x7b\x7d").Ends
            ((parse "\x7b\x7d").mapError .declared))
      ∧ (∀ members, ¬Json.ListsMembers "[]" members)
        ∧ ∃ details, (Failure.Notice.badOutput details "[]").Ends
          ((parse "[]").mapError .declared) := by
  have speaks {first : CodePoint} {rest : Text} : ¬(Json.text (first :: rest)).SaysNothing := nofun
  have path : Gives sampleMembers "path" (.text "😀") :=
    ⟨⟨sampleMembers.take 3, [], rfl, nofun⟩, speaks⟩
  have user : Gives sampleMembers "user" (.text "u") :=
    ⟨⟨[], sampleMembers.drop 1, rfl, by decide⟩, speaks⟩
  have key : Gives sampleMembers "auth" (.text "k") :=
    ⟨⟨sampleMembers.take 2, sampleMembers.drop 3, rfl, by decide⟩, speaks⟩
  have empty : Json.ListsMembers "\x7b\x7d" [] :=
    ⟨[], _, [], Json.isSpaces_nil, .emptyObject Json.isSpaces_nil, Json.isSpaces_nil, rfl⟩
  have refused (record : Record) : parse "\x7b\x7d" ≠ .ok record := by
    intro parsed
    rcases (parse_eq_ok_iff_gives empty).mp parsed with ⟨_, _, _, ⟨⟨before, _, same, _⟩, _⟩, _⟩
    cases before <;> cases same
  have noObject (members : List (Text × Json)) : ¬Json.ListsMembers "[]" members := by
    intro lists
    have isArray : Json.read "[]" = .ok (.array []) := by decide +kernel
    cases isArray.symm.trans (Json.read_eq_object_iff.mpr ⟨members, lists, rfl⟩)
  exact ⟨⟨sampleOutput_listsMembers, (((parse_accepts_complete sampleOutput).1 _
      sampleOutput_listsMembers).1 _).mpr ⟨_, _, _, path, user, key, rfl⟩⟩,
    ⟨empty, refused, ((parse_accepts_complete _).1 _ empty).2 refused⟩,
    noObject, (parse_accepts_complete _).2.2 noObject⟩

end Record

end ShareProvisioner.Agent
