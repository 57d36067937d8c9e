import ShareProvisioner.Proofs.Cluster.Secret
import ShareProvisioner.Proofs.Entries
import ShareProvisioner.Proofs.Lifecycle.History
import ShareProvisioner.Proofs.Text.Utf8

/-!
# Reading published keys

The key of a new user is published as octets under a single name.  Whoever reads the secret
of a volume gets the text that the agent reported, from memory as well as from a cluster that
keeps what it was sent.
-/

namespace ShareProvisioner

namespace Store

variable {world : World} {store : Store} {secret : SecretReference} {data : SecretData}
  {name key : Text} {octets : Octets}

theorem runIn_adminKey_of_key (read : (Action.runIn world (store.readSecret secret)).1 = .ok data)
    (holds : data.key secret = .ok key) :
    (Action.runIn world (store.adminKey secret)).1 = .ok key := by
  rw [runIn_adminKey read, holds]
  rfl

theorem runIn_adminKey_memory (decoded : Utf8.decode octets = .ok key) (nonempty : key ≠ [])
    (kept : world.memory.secret? secret = some (.ofOctets [(name, octets)])) :
    (Action.runIn world (memory.adminKey secret)).1 = .ok key :=
  runIn_adminKey_of_key (runIn_readSecret_memory.mpr kept)
    (SecretData.key_of_single decoded nonempty)

theorem runIn_adminKey_cluster {client : Cluster.Client} (decoded : Utf8.decode octets = .ok key)
    (nonempty : key ≠ [])
    (returns : world.nextResponse.Returns (Cluster.Client.base64Entries [(name, octets)])) :
    (Action.runIn world ((cluster client).adminKey secret)).1 = .ok key := by
  rcases @Cluster.Client.readSecret_of_returns client secret _ _ returns with
    ⟨read, taken, permuted⟩
  rw [List.perm_singleton.mp permuted] at taken
  exact runIn_adminKey_of_key taken (SecretData.key_of_single decoded nonempty)

end Store

namespace Provisioner

/-- A cluster that returns the data which it was sent is read as it was written, and a store
gives back the key of a new volume's user as the agent reported it. -/
theorem published_key_reads_back :
    (∀ (client : Cluster.Client) (secret : SecretReference) (type : Json)
      (entries : List (Text × Octets)) (world : World),
      let created := Action.runIn world (client.createSecret secret type (.ofOctets entries))
      ∃ request sent, created.2.calls = world.calls ++ [.http request]
        ∧ request.method = .post ∧ request.postedData? = some sent
        ∧ ∀ later : World, later.nextResponse.Returns sent →
          ∃ read, (Action.runIn later (client.readSecret secret)).1 = .ok (.ofOctets read)
            ∧ read.Perm entries)
      ∧ ∀ (provisioner : Provisioner) (store : Store) (claim : Claim) (world : World)
        (volume : Volume) (record : Agent.Record),
        let outcome := Action.runIn world (provisioner.provision store claim)
        let secret : SecretReference := ⟨.text claim.namespaceName, volume.secretName⟩
        outcome.1 = .ok volume → world.nextOutcome.Reports record →
        (store = .memory → ∀ later : World, later.memory = outcome.2.memory →
            (Action.runIn later (store.adminKey secret)).1 = .ok record.key)
          ∧ ∀ client, store = .cluster client →
            ∃ request sent, outcome.2.calls.getLast? = some (.http request)
              ∧ request.method = .post ∧ request.postedData? = some sent
              ∧ ∀ later : World, later.nextResponse.Returns sent →
                (Action.runIn later (store.adminKey secret)).1 = .ok record.key := by
  constructor
  · intro client secret type entries world created
    exact ⟨client.posting secret type entries, _, Cluster.Client.calls_createSecret type, rfl,
      Cluster.Client.postedData?_posting type,
      fun later returns => Cluster.Client.readSecret_of_returns returns⟩
  · intro provisioner store claim world volume record outcome secret returned reports
    have course := provision_course provisioner store claim world
    change ProvisionCourse provisioner store claim world outcome.1 outcome.2 at course
    rw [returned] at course
    generalize outcome.2 = after at course ⊢
    cases course with
    | @published parameters connection invocation reported exportPath key publishes written free =>
        cases reports.eq publishes.reports
        have decoded := Utf8.decode_encode publishes.encoded
        rcases publishes.reports with ⟨_, _, _, parsed⟩
        have nonempty := (Agent.Record.parse_isComplete parsed).key
        constructor
        · intro inMemory later same
          subst inMemory
          have kept : later.memory.secret? secret = some (.ofOctets [(secretEntry, key)]) := by
            rw [same]
            exact (Entries.find?_insert ..).trans (if_pos (beq_self_eq_true _))
          exact Store.runIn_adminKey_memory decoded nonempty kept
        · intro client inCluster
          subst inCluster
          refine ⟨client.posting (publishedSecret claim world) (.text "Opaque")
              [(secretEntry, key)], _, ?_, rfl, Cluster.Client.postedData?_posting _,
            fun later returns => Store.runIn_adminKey_cluster decoded nonempty returns⟩
          exact List.getLast?_concat

/-! ## A small cluster -/

def sampleClient : Cluster.Client where
  baseUrl := "https://k8s:6443"

/-- An object that holds the data, written as given. -/
def answerWith (data : String) : Http.Outcome :=
  .answered 200 (Utf8.ofString ("\x7b\"data\":" ++ data ++ "\x7d"))

def clusterWorld : World where
  responses := [answerWith "\x7b\"key\":\"aw==\"\x7d", answerWith "null"]
  runs := Run.sampleWorld.runs

/-- Two entries come back in the other order, and the key of a user comes back from memory
and from a cluster. -/
theorem published_key_reads_back_sample :
    let entries : List (Text × Octets) := [("b", [0xFF]), ("a", [])]
    let several : World := { responses := [answerWith "\x7b\"a\":\"\",\"b\":\"/w==\"\x7d"] }
    let single : World := { responses := [answerWith "\x7b\"key\":\"eA==\"\x7d"] }
    let provisioner : Provisioner := { identity := "one" }
    let user := Run.sampleWorld.nextUser
    let volume := provisioner.volumeFor Run.sampleClaim ["m"] Run.sampleWorld.nextShare
      (secretName user) "/s" "u"
    let kept := Action.runIn Run.sampleWorld (provisioner.provision .memory Run.sampleClaim)
    let posted := Action.runIn clusterWorld
      (provisioner.provision (.cluster sampleClient) Run.sampleClaim)
    let secret : SecretReference := ⟨.text "team", .text (secretName user)⟩
    (several.nextResponse.Returns (Cluster.Client.base64Entries entries)
        ∧ ∃ read, (Action.runIn several (sampleClient.readSecret secret)).1 = .ok (.ofOctets read)
          ∧ read.Perm entries)
      ∧ Run.sampleWorld.nextOutcome.Reports ⟨"/s", "u", "x"⟩
      ∧ (kept.1 = .ok volume ∧ (Action.runIn kept.2 (Store.memory.adminKey secret)).1 = .ok "x")
      ∧ posted.1 = .ok volume
        ∧ single.nextResponse.Returns [("key", .text "eA==")]
        ∧ (Action.runIn single ((Store.cluster sampleClient).adminKey secret)).1 = .ok "x" := by
  intro entries several single provisioner user volume kept posted secret
  have readsBack := published_key_reads_back
  have reports : Run.sampleWorld.nextOutcome.Reports ⟨"/s", "u", "x"⟩ :=
    ⟨_, _, rfl, by decide +kernel⟩
  have returnsSeveral : several.nextResponse.Returns (Cluster.Client.base64Entries entries) := by
    refine ⟨200, _, [("data", .object [("a", .text ""), ("b", .text "/w==")])], _, rfl, by decide,
      by decide +kernel, rfl, ?_⟩
    exact List.Perm.swap ..
  have returnsSingle : single.nextResponse.Returns [("key", .text "eA==")] :=
    ⟨200, _, [("data", .object [("key", .text "eA==")])], _, rfl, by decide,
      by decide +kernel, rfl, .refl _⟩
  have keptVolume : kept.1 = .ok volume := by decide +kernel
  have postedVolume : posted.1 = .ok volume := by decide +kernel
  refine ⟨⟨returnsSeveral, ?_⟩, reports, ⟨keptVolume, ?_⟩, postedVolume, returnsSingle, ?_⟩
  · rcases readsBack.1 sampleClient secret (.text "Opaque") entries {} with
      ⟨request, sent, called, _, data, back⟩
    cases called
    cases data
    exact back several returnsSeveral
  · exact (readsBack.2 provisioner .memory Run.sampleClaim Run.sampleWorld volume _ keptVolume
      reports).1 rfl kept.2 rfl
  · rcases (readsBack.2 provisioner (.cluster sampleClient) Run.sampleClaim clusterWorld volume _
      postedVolume reports).2 sampleClient rfl with ⟨request, sent, last, _, data, back⟩
    have isPosting : posted.2.calls.getLast? = some (.http (sampleClient.posting secret
        (.text "Opaque") [("key", [120])])) := by decide +kernel
    cases last.symm.trans isPosting
    cases data
    exact back single returnsSingle

end Provisioner

end ShareProvisioner
