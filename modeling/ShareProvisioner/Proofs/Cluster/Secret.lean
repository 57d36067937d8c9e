import Mathlib.Data.List.Perm.Basic
import ShareProvisioner.Proofs.Outside.Store
import ShareProvisioner.Proofs.Text.Base64

/-!
# Secrets kept by a cluster

A secret is posted with its content in Base64.  A server that answers with the data that it
was sent gives back what was written; the order of the entries is for the server to choose.
-/

namespace ShareProvisioner

namespace Http

/-- The data of the object that a request posts. -/
def Request.postedData? (request : Request) : Option (List (Text × Json)) :=
  match request.body with
  | some (.object members) =>
      match Json.member members "data" with
      | .object entries => some entries
      | _ => none
  | _ => none

/-- Whether an outcome is the answer of a server that keeps an object with the given data. -/
def Outcome.Returns (outcome : Outcome) (data : List (Text × Json)) : Prop :=
  ∃ status octets members found, outcome = .answered status octets ∧ status < 400
    ∧ Json.read (Utf8.decodeReplacing octets) = .ok (.object members)
    ∧ Json.member members "data" = .object found ∧ found.Perm data

end Http

namespace Cluster.Client

variable {client : Client} {secret : SecretReference} {entries : List (Text × Octets)}
  {world : World}

/-- Entries in another order are the entries written in another order. -/
theorem base64Entries_of_perm {found : List (Text × Json)}
    (rearranged : found.Perm (base64Entries entries)) :
    ∃ read, found = base64Entries read ∧ read.Perm entries := by
  have written : List.Forall₂ (fun member entry =>
      member = (entry.1, Json.text ((Base64.encode entry.2).map .char)))
      (base64Entries entries) entries := by
    unfold base64Entries
    rw [List.forall₂_map_left_iff]
    exact List.forall₂_same.mpr fun _ _ => rfl
  rcases List.perm_comp_forall₂ rearranged written with ⟨read, same, permuted⟩
  refine ⟨read, ?_, permuted⟩
  clear rearranged written permuted
  induction same with
  | nil => rfl
  | cons isEntry _ induction => rw [isEntry, induction]; rfl

theorem decodeEntries_base64Entries (entries : List (Text × Octets)) :
    decodeEntries (base64Entries entries) = .ok (.ofOctets entries) := by
  induction entries with
  | nil => rfl
  | cons entry rest induction =>
      unfold base64Entries at induction ⊢
      rw [List.map_cons, decodeEntries, Base64.decode_encode, induction]
      rfl

theorem secretData_of_member {members : List (Text × Json)}
    (found : Json.member members "data" = .object (base64Entries entries)) :
    secretData members = .ok (.ofOctets entries) := by
  unfold secretData
  rw [found]
  cases entries with
  | nil => rfl
  | cons entry rest => exact decodeEntries_base64Entries (entry :: rest)

theorem membersOf_of_returned {path : Text} {special : Nat → Option Failure.Cause} {status : Nat}
    {octets : Octets} {members : List (Text × Json)} (ordinary : special status = none)
    (succeeds : status < 400)
    (read : Json.read (Utf8.decodeReplacing octets) = .ok (.object members)) :
    client.membersOf path special (.answered status octets) = .ok members := by
  have below : ¬400 ≤ status := by omega
  unfold membersOf
  dsimp only
  rw [ordinary, read]
  dsimp only
  rw [if_neg below]

section Objects

variable {status : Nat} {octets : Octets} {members : List (Text × Json)}
  (answered : world.nextResponse = .answered status octets) (succeeds : status < 400)
  (isObject : Json.read (Utf8.decodeReplacing octets) = .ok (.object members))
include answered succeeds isObject

/-- The object of an answer is what an exchange gives. -/
theorem runIn_exchange_of_object (method : Http.Method) (path : Text) (body : Option Json)
    {special : Nat → Option Failure.Cause} (ordinary : special status = none) :
    Action.runIn world (client.exchange method path body special)
      = (.ok members,
        (Store.cluster client).asked world (.http (client.request method path body))) := by
  rw [Store.runIn_exchange, answered, membersOf_of_returned ordinary succeeds isObject]
  rfl

theorem runIn_readSecret_of_object (secret : SecretReference) :
    (Action.runIn world (client.readSecret secret)).1
      = (secretData members).mapError .unexpected := by
  have ordinary : (if status = 404 then some (Failure.Cause.secretNotFound secret) else none)
      = none := if_neg (by omega)
  unfold readSecret
  rw [Action.runIn_bind_ok (runIn_exchange_of_object answered succeeds isObject _ _ _ ordinary),
    Action.runIn_guarded]

theorem runIn_readClass_of_object (name : Json) :
    (Action.runIn world (client.readClass name)).1
      = (storageClass name members).mapError .unexpected := by
  have ordinary : (if status = 404 then some (Failure.Cause.classNotFound name) else none)
      = none := if_neg (by omega)
  unfold readClass
  rw [Action.runIn_bind_ok (runIn_exchange_of_object answered succeeds isObject _ _ _ ordinary),
    Action.runIn_guarded]

end Objects

/-- What a server returns as it was written is read as what was written. -/
theorem readSecret_of_returns (returns : world.nextResponse.Returns (base64Entries entries)) :
    ∃ read, (Action.runIn world (client.readSecret secret)).1 = .ok (.ofOctets read)
      ∧ read.Perm entries := by
  rcases returns with ⟨status, octets, members, found, answered, succeeds, isObject, isData,
    rearranged⟩
  rcases base64Entries_of_perm rearranged with ⟨read, rfl, permuted⟩
  refine ⟨read, ?_, permuted⟩
  rw [runIn_readSecret_of_object answered succeeds isObject, secretData_of_member isData]
  rfl

/-- The request by which a secret is created. -/
def posting (client : Client) (secret : SecretReference) (type : Json)
    (entries : List (Text × Octets)) : Http.Request :=
  client.request .post (secretsPath secret)
    (some (secretObject secret type (base64Entries entries)))

theorem postedData?_posting (type : Json) :
    (client.posting secret type entries).postedData? = some (base64Entries entries) := rfl

theorem calls_createSecret (type : Json) :
    (Action.runIn world (client.createSecret secret type (.ofOctets entries))).2.calls
      = world.calls ++ [.http (client.posting secret type entries)] := by
  unfold createSecret
  rw [encodeEntries_ofOctets, Action.runIn_bind_ok (Action.runIn_guarded _)]
  have asked := @Action.runIn_bind_world _ _ world (client.exchange .post
    (secretsPath secret) (some (secretObject secret type (base64Entries entries))) fun status =>
      if status = 409 then some (.secretExists secret) else none) _
    fun _ => Action.observes_pure ()
  rw [Store.runIn_exchange] at asked
  exact congrArg World.calls asked

end Cluster.Client

end ShareProvisioner
