import ShareProvisioner.Proofs.Outside.Alike
import ShareProvisioner.Provisioner

/-!
# What a provisioner keeps to itself

In worlds that look alike a provisioner makes calls that look alike, and returns the same
volume, gives the same answer or fails for the same cause.  A published key stays a key, so
this holds as well when it is read again later on.
-/

namespace ShareProvisioner

open ShareProvisioner.Action

/-! ## Stores in memory -/

namespace Memory

variable {memory other : Memory}

theorem Alike.secret? (alike : memory.Alike other) (secret : SecretReference) :
    Option.Rel SecretData.Alike (memory.secret? secret) (other.secret? secret) := by
  unfold Memory.secret?
  cases secretKey? secret with
  | none => exact .none
  | some key => exact alike.secrets.find? key

theorem agree_checkKey (value : Json) :
    Agree Eq (Action.guarded (checkKey value)) (Action.guarded (checkKey value)) :=
  .guarded (.refl _ (fun _ => trivial) fun _ => rfl)

theorem agree_readSecret (secret : SecretReference) :
    Agree SecretData.Alike (readSecret secret) (readSecret secret) := by
  refine .bind_same (.note (.same _)) fun _ => ?_
  refine .bind_same (agree_checkKey _) fun _ => ?_
  refine .bind_same (agree_checkKey _) fun _ => ?_
  refine .bind .get fun world other alike => ?_
  have found := alike.memory.secret? secret
  generalize world.memory.secret? secret = data at found ⊢
  generalize other.memory.secret? secret = otherData at found ⊢
  cases found with
  | none => exact .refuse _
  | some alike => exact .pure alike

theorem agree_readClass (name : Json) : Agree Eq (readClass name) (readClass name) := by
  refine .bind_same (.note (.same _)) fun _ => ?_
  refine .bind_same (agree_checkKey _) fun _ => ?_
  cases name with
  | text className =>
      refine .bind .get fun world other alike => ?_
      rw [alike.memory.classes]
      cases other.memory.classes.find? className with
      | none => exact .refuse _
      | some parameters => exact .pure rfl
  | _ => exact .refuse _

theorem agree_createSecret (secret : SecretReference) (type : Json) {data other : SecretData}
    (alike : data.Alike other) :
    Agree Eq (createSecret secret type data) (createSecret secret type other) := by
  refine .bind_same (.note (.createSecret _ _ alike.keys_eq)) fun _ => ?_
  refine .bind_same (agree_checkKey _) fun _ => ?_
  refine .bind_same (agree_checkKey _) fun _ => ?_
  refine .bind .get fun world otherWorld worlds => ?_
  cases secretKey? secret with
  | none => exact .pure rfl
  | some key =>
      rcases key with ⟨namespaceName, name⟩
      dsimp only
      have same : (world.memory.secrets.find? (namespaceName, name)).isSome
          = (otherWorld.memory.secrets.find? (namespaceName, name)).isSome := by
        have found := worlds.memory.secrets.find? (namespaceName, name)
        generalize world.memory.secrets.find? (namespaceName, name) = present at found ⊢
        generalize otherWorld.memory.secrets.find? (namespaceName, name) = otherPresent at found ⊢
        cases found <;> rfl
      rw [same]
      split
      · exact .refuse _
      · have secrets := worlds.memory.secrets.insert (namespaceName, name) alike
        exact .set ⟨⟨secrets, worlds.memory.classes⟩, worlds.runs, worlds.nextId, worlds.calls⟩

end Memory

theorem Store.agree_connect (parameters : ClusterParameters) :
    Agree Connection.Alike (Store.memory.connect parameters) (Store.memory.connect parameters) := by
  have adminKey : Agree Text.KeysAlike (Store.memory.adminKey parameters.secret)
      (Store.memory.adminKey parameters.secret) :=
    .bind (Memory.agree_readSecret _) fun data other alike => .checked (alike.key _)
  exact .bind adminKey fun key other alike => .pure ⟨rfl, rfl, rfl, alike⟩

/-! ## The agent -/

namespace Provisioner

variable {connection other : Connection}

theorem agree_runAgent (provisioner : Provisioner) (mode : Agent.Mode) (share user : Json)
    (alike : connection.Alike other) :
    Agree Agent.OutputsAlike (provisioner.runAgent mode share user connection)
      (provisioner.runAgent mode share user other) :=
  .bind (.guarded (Agent.invocation_alike _ _ _ _ alike)) fun _ _ invocations =>
    .bind (.launch invocations) fun _ _ outcomes => .checked (outcomes.output _ _ _)

theorem agree_createShare (provisioner : Provisioner) (share user : Text)
    (alike : connection.Alike other) :
    Agree Agent.Record.Alike (provisioner.createShare share user connection)
      (provisioner.createShare share user other) :=
  .bind (provisioner.agree_runAgent _ _ _ alike) fun _ _ outputs => .checked outputs.parse

theorem agree_destroyShare (provisioner : Provisioner) (share user : Json)
    (alike : connection.Alike other) :
    Agree Eq (provisioner.destroyShare share user connection)
      (provisioner.destroyShare share user other) :=
  .bind (provisioner.agree_runAgent _ _ _ alike) fun _ _ _ => .pure rfl

/-! ## Volumes -/

/-- A key that is published is a key when it is read back. -/
theorem encode_alike {key other : Text} (alike : key.KeysAlike other) :
    Result.Alike Failure.Fault.Alike
      (fun octets other => SecretValue.Alike (.octets octets) (.octets other))
      ((Utf8.encode key).mapError .unencodable) ((Utf8.encode other).mapError .unencodable) := by
  rcases alike with rfl | ⟨isKey, otherIsKey⟩
  · exact .refl _ (fun _ => trivial) fun _ => .inl rfl
  · have encodable {key : Text} (isKey : key.IsKey) :
        ∃ octets, Utf8.encode key = .ok octets ∧ (SecretValue.octets octets).IsKey := by
      rcases (Utf8.encodeFrom_eq_ok_iff key 0).mpr fun codePoint member =>
        (isKey.plain codePoint member).2 with ⟨octets, encoded⟩
      exact ⟨octets, encoded, .octets (Utf8.decode_encode encoded) isKey⟩
    rcases encodable isKey with ⟨octets, encoded, octetsKey⟩
    rcases encodable otherIsKey with ⟨otherOctets, otherEncoded, otherOctetsKey⟩
    rw [encoded, otherEncoded]
    exact .ok (.inr ⟨octetsKey, otherOctetsKey⟩)

theorem agree_allocate (provisioner : Provisioner) (claim : Claim) (share user : Text)
    (alike : connection.Alike other) :
    Agree Eq (provisioner.allocate .memory claim connection share user)
      (provisioner.allocate .memory claim other share user) := by
  refine .bind (provisioner.agree_createShare _ _ alike) fun record otherRecord records => ?_
  rw [records.path]
  refine .bind_same (.checked (.refl _ .refl fun _ => rfl)) fun exportPath => ?_
  refine .bind (.guarded (encode_alike records.key)) fun octets otherOctets values => ?_
  have data : SecretData.Alike [(secretEntry, .octets octets)] [(secretEntry, .octets otherOctets)] :=
    .cons ⟨rfl, values⟩ .nil
  refine .bind_same (Memory.agree_createSecret _ _ data) fun _ => .pure ?_
  rw [alike.monitors, records.user]

theorem agree_provision (provisioner : Provisioner) (claim : Claim) :
    Agree Eq (provisioner.provision .memory claim) (provisioner.provision .memory claim) := by
  unfold provision
  split
  · exact .refuse_bind _ _ _
  · refine .bind_same (.lift _) fun parameters => ?_
    refine .bind (Store.agree_connect parameters) fun connection other alike => ?_
    refine .bind_same .freshIdentifier fun share => ?_
    refine .bind_same .freshIdentifier fun user => ?_
    exact provisioner.agree_allocate claim _ _ alike

theorem agree_delete (provisioner : Provisioner) (volume : Volume) :
    Agree Eq (provisioner.delete .memory volume) (provisioner.delete .memory volume) := by
  unfold delete
  cases Ownership.verify volume provisioner.identity with
  | notFound => exact .refuse _
  | notMine => exact .pure rfl
  | owned =>
  dsimp only
  cases volume.grantedUser.isTruthy with
  | false => exact .refuse_bind _ _ _
  | true =>
  rw [if_neg (by simp)]
  cases volume.className.isTruthy with
  | false => exact .refuse_bind _ _ _
  | true =>
  rw [if_neg (by simp)]
  refine .bind_same (Memory.agree_readClass _) fun storageClass => ?_
  refine .bind_same (.lift _) fun parameters => ?_
  refine .bind (Store.agree_connect parameters) fun connection other alike => ?_
  exact .bind_same (provisioner.agree_destroyShare _ _ alike) fun _ => .pure rfl

end Provisioner

end ShareProvisioner
