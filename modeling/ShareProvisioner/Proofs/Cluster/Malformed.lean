import ShareProvisioner.Proofs.Cluster.Secret
import ShareProvisioner.Proofs.Volume.Manifest

/-!
# Objects of another shape

An answer of the API server that holds no object is a declared failure.  One that holds an
object is taken for a secret or for a storage class without a further check, so that a
member of another shape ends the operation in a fault.
-/

namespace ShareProvisioner

namespace Json

/-- Whether a value is a text that can be read as Base64. -/
def IsBase64 (value : Json) : Prop :=
  ∃ text characters, value = .text text ∧ Base64.asciiChars? text = some characters
    ∧ Base64.IsReadable (characters.filter Base64.isSignificant)

/-- Whether a value can be decoded as the data of a secret. -/
inductive IsSecretData : Json → Prop
  | object {entries : List (Text × Json)} (encoded : ∀ entry ∈ entries, entry.2.IsBase64) :
      IsSecretData (.object entries)
  | silent {value : Json} (silent : value.isTruthy = false) : IsSecretData value

end Json

namespace Cluster.Client

/-- Whether members can be taken for those of a storage class. -/
structure IsClassLike (members : List (Text × Json)) : Prop where
  metadata : (Json.member members "metadata").IsObjectLike
  parameters : (Json.member members "parameters").IsMappingLike

/-! ## What can be read -/

theorem isBase64_text_iff {text : Text} :
    (Json.text text).IsBase64 ↔ ∃ octets, Base64.decode text = .ok octets := by
  rw [Base64.exists_decode_iff]
  constructor
  · intro isBase64
    rcases isBase64 with ⟨_, characters, ⟨rfl⟩, ascii, readable⟩
    exact ⟨characters, ascii, readable⟩
  · intro reads
    rcases reads with ⟨characters, ascii, readable⟩
    exact ⟨text, characters, rfl, ascii, readable⟩

theorem exists_decodeEntries_iff (entries : List (Text × Json)) :
    (∃ data, decodeEntries entries = .ok data) ↔ ∀ entry ∈ entries, entry.2.IsBase64 := by
  induction entries with
  | nil => exact ⟨fun _ => nofun, fun _ => ⟨[], rfl⟩⟩
  | cons entry rest induction =>
      rcases entry with ⟨name, value⟩
      rw [List.forall_mem_cons, ← induction]
      cases value with
      | text text =>
          rw [isBase64_text_iff, decodeEntries]
          cases Base64.decode text with
          | error fault => simp
          | ok octets => simp [Result.exists_map_eq_ok_iff]
      | _ =>
          constructor
          · intro reads
            rcases reads with ⟨data, read⟩
            cases read
          · intro encoded
            rcases encoded.1 with ⟨text, characters, isText, _⟩
            cases isText

theorem exists_secretData_iff (members : List (Text × Json)) :
    (∃ data, secretData members = .ok data) ↔ (Json.member members "data").IsSecretData := by
  unfold secretData
  cases Json.member members "data" with
  | object entries =>
      cases entries with
      | nil => exact ⟨fun _ => .silent rfl, fun _ => ⟨[], rfl⟩⟩
      | cons first rest =>
          refine (exists_decodeEntries_iff (first :: rest)).trans ⟨.object, fun isData => ?_⟩
          cases isData with
          | object encoded => exact encoded
          | silent silent => cases silent
  | _ =>
      dsimp only
      split
      · next truthy =>
          refine ⟨nofun, fun isData => ?_⟩
          cases isData with
          | silent silent => exact nomatch truthy.symm.trans silent
      · next silent =>
          exact ⟨fun _ => .silent (Bool.eq_false_iff.mpr silent), fun _ => ⟨[], rfl⟩⟩

/-- The metadata of a class are looked into like those of a volume. -/
theorem storageClass_eq (name : Json) (members : List (Text × Json)) :
    storageClass name members = (do
      let metadata ← Volume.membersOf (Json.member members "metadata")
      let parameters ← Mapping.ofJson (Json.member members "parameters")
      return {
        name := (Entries.find? metadata "name").getD name
        provisioner := (Entries.find? members "provisioner").getD (.text [])
        parameters }) := by
  unfold storageClass Volume.membersOf
  dsimp only
  split
  · cases Json.member members "metadata" <;> rfl
  · rfl

theorem exists_storageClass_iff (name : Json) (members : List (Text × Json)) :
    (∃ found, storageClass name members = .ok found) ↔ IsClassLike members := by
  rw [storageClass_eq]
  constructor
  · intro reads
    rcases reads with ⟨found, read⟩
    rcases Result.bind_eq_ok_iff.mp read with ⟨metadata, isMetadata, rest⟩
    rcases Result.bind_eq_ok_iff.mp rest with ⟨parameters, isMapping, _⟩
    exact ⟨(Volume.membersOf_eq_ok_iff.mp isMetadata).1,
      Mapping.exists_ofJson_iff.mp ⟨_, isMapping⟩⟩
  · intro like
    rcases Mapping.exists_ofJson_iff.mpr like.parameters with ⟨parameters, isMapping⟩
    rw [Volume.membersOf_eq_ok_iff.mpr ⟨like.metadata, rfl⟩, isMapping]
    exact ⟨_, rfl⟩

/-! ## Asking the API server -/

/-- Reading ends with a value or with a fault, according to what can be read. -/
theorem ends_of_exists_iff {α : Type} {result : Except Failure.Fault α} {readable : Prop}
    (reads : (∃ value, result = .ok value) ↔ readable) :
    (readable → ∃ value, result.mapError Failure.unexpected = .ok value)
      ∧ (¬readable → ∃ fault, result.mapError Failure.unexpected
          = .error (.unexpected fault)) := by
  rw [← reads]
  cases result with
  | ok value => exact ⟨fun _ => ⟨value, rfl⟩, fun unread => absurd ⟨value, rfl⟩ unread⟩
  | error fault => exact ⟨nofun, fun _ => ⟨fault, rfl⟩⟩

/-- From an answer that holds an object, a secret is read if its data can be decoded, and a
class if its parts can be looked into.  Otherwise the operation ends in a fault, and never in
a declared failure. -/
theorem malformed_object_faults (client : Client) {world : World} {status : Nat} {octets : Octets}
    {members : List (Text × Json)} (answered : world.nextResponse = .answered status octets)
    (succeeds : status < 400)
    (isObject : Json.read (Utf8.decodeReplacing octets) = .ok (.object members))
    (secret : SecretReference) (name : Json) :
    let secretRead := (Action.runIn world (client.readSecret secret)).1
    let classRead := (Action.runIn world (client.readClass name)).1
    ((Json.member members "data").IsSecretData → ∃ data, secretRead = .ok data)
      ∧ (¬(Json.member members "data").IsSecretData →
          ∃ fault, secretRead = .error (.unexpected fault))
      ∧ (IsClassLike members → ∃ found, classRead = .ok found)
      ∧ (¬IsClassLike members → ∃ fault, classRead = .error (.unexpected fault)) := by
  intro secretRead classRead
  have isSecretRead : secretRead = (secretData members).mapError .unexpected :=
    runIn_readSecret_of_object answered succeeds isObject secret
  have isClassRead : classRead = (storageClass name members).mapError .unexpected :=
    runIn_readClass_of_object answered succeeds isObject name
  rw [isSecretRead, isClassRead]
  have secretEnds := ends_of_exists_iff (exists_secretData_iff members)
  have classEnds := ends_of_exists_iff (exists_storageClass_iff name members)
  exact ⟨secretEnds.1, secretEnds.2, classEnds.1, classEnds.2⟩

/-- The same object is read as a secret and is none of a class. -/
theorem malformed_object_faults_sample :
    let client : Client := { baseUrl := "https://api" }
    let body := "\x7b\"data\":\x7b\"key\":\"a2V5\"\x7d,\"metadata\":\"x\"\x7d"
    let world : World := { responses := [.answered 200 (Utf8.ofString body)] }
    (∃ data, (Action.runIn world (client.readSecret ⟨.text "team", .text "admin"⟩)).1 = .ok data)
      ∧ ∃ fault, (Action.runIn world (client.readClass (.text "fast"))).1
          = .error (.unexpected fault) := by
  intro client body world
  have isObject : Json.read (Utf8.decodeReplacing (Utf8.ofString body))
      = .ok (.object [("data", .object [("key", .text "a2V5")]), ("metadata", .text "x")]) := by
    decide +kernel
  have answered : world.nextResponse = .answered 200 (Utf8.ofString body) := rfl
  have key : (Json.text "a2V5").IsBase64 :=
    isBase64_text_iff.mpr ⟨Utf8.ofString "key", by decide⟩
  have data : (Json.object [("key", .text "a2V5")]).IsSecretData := .object (by simpa using key)
  rcases malformed_object_faults client answered (by decide) isObject
    ⟨.text "team", .text "admin"⟩ (.text "fast") with ⟨secretRead, _, _, classUnread⟩
  refine ⟨secretRead data, classUnread fun like => ?_⟩
  cases like.metadata with
  | silent silent => cases silent

/-- A key of one letter is no Base64, and a text has no members. -/
theorem one_letter_key_faults :
    let client : Client := { baseUrl := "https://api" }
    let answering (body : String) : World :=
      { responses := [.answered 200 (Utf8.ofString body)] }
    (Action.runIn (answering "\x7b\"data\":\x7b\"key\":\"a\"\x7d\x7d")
          (client.readSecret ⟨.text "team", .text "admin"⟩)).1
        = .error (.unexpected (.malformedBase64 (.lengthOf 1)))
      ∧ (Action.runIn (answering "\x7b\"metadata\":\"x\"\x7d")
          (client.readClass (.text "fast"))).1
        = .error (.unexpected (.lacks (.text "x") "get")) := by
  decide +kernel

end Cluster.Client

end ShareProvisioner
