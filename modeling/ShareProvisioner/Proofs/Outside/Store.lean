import ShareProvisioner.Outside.Store
import ShareProvisioner.Proofs.Failure.Result
import ShareProvisioner.Proofs.Outside.Action
import ShareProvisioner.Proofs.Secret

/-!
# Asking stores

Each question to a store is one call, whatever the answer.  A question changes nothing
else, except that an answer of the API server is used up; only a secret that is written
to memory stays there.
-/

namespace ShareProvisioner

def Call.invocation? : Call → Option Agent.Invocation
  | .agent invocation => some invocation
  | _ => none

@[simp] theorem Call.invocation?_agent (invocation : Agent.Invocation) :
    (Call.agent invocation).invocation? = some invocation := rfl

def SecretData.ofOctets (entries : List (Text × Octets)) : SecretData :=
  entries.map fun (name, octets) => (name, .octets octets)

theorem SecretData.ofOctets_singleton (name : Text) (octets : Octets) :
    SecretData.ofOctets [(name, octets)] = [(name, .octets octets)] := rfl

namespace Cluster.Client

def base64Entries (entries : List (Text × Octets)) : List (Text × Json) :=
  entries.map fun (name, octets) => (name, .text ((Base64.encode octets).map .char))

theorem encodeEntries_ofOctets (entries : List (Text × Octets)) :
    encodeEntries (.ofOctets entries) = .ok (base64Entries entries) := by
  unfold encodeEntries SecretData.ofOctets base64Entries
  induction entries with
  | nil => rfl
  | cons entry rest induction =>
      rw [List.map_cons, List.mapM_cons, induction]
      rfl

end Cluster.Client

namespace Store

/-! ## The calls -/

def readingSecret (secret : SecretReference) : Store → Call
  | memory => .readSecret secret
  | cluster client => .http (client.request .get (Cluster.Client.secretPath secret) none)

def readingClass (name : Json) : Store → Call
  | memory => .readClass name
  | cluster client => .http (client.request .get (Cluster.Client.classPath name) none)

def creatingSecret (secret : SecretReference) (entries : List (Text × Octets)) : Store → Call
  | memory => .createSecret secret (.text "Opaque") (.ofOctets entries)
  | cluster client => .http (client.request .post (Cluster.Client.secretsPath secret)
      (some (Cluster.Client.secretObject secret (.text "Opaque")
        (Cluster.Client.base64Entries entries))))

@[simp] theorem invocation?_readingSecret (secret : SecretReference) (store : Store) :
    (store.readingSecret secret).invocation? = none := by
  cases store <;> rfl

@[simp] theorem invocation?_creatingSecret (secret : SecretReference)
    (entries : List (Text × Octets)) (store : Store) :
    (store.creatingSecret secret entries).invocation? = none := by
  cases store <;> rfl

@[simp] theorem agent_ne_readingSecret (invocation : Agent.Invocation) (secret : SecretReference)
    (store : Store) : Call.agent invocation ≠ store.readingSecret secret := by
  cases store <;> exact nofun

@[simp] theorem agent_ne_readingClass (invocation : Agent.Invocation) (name : Json)
    (store : Store) : Call.agent invocation ≠ store.readingClass name := by
  cases store <;> exact nofun

@[simp] theorem agent_ne_creatingSecret (invocation : Agent.Invocation)
    (secret : SecretReference) (entries : List (Text × Octets)) (store : Store) :
    Call.agent invocation ≠ store.creatingSecret secret entries := by
  cases store <;> exact nofun

def asked (store : Store) (world : World) (call : Call) : World :=
  { world with
    calls := world.calls ++ [call]
    responses := match store with
      | memory => world.responses
      | cluster _ => world.responses.tail }

section Asked

variable (store : Store) (world : World) (call : Call)

@[simp] theorem asked_calls : (store.asked world call).calls = world.calls ++ [call] := rfl

@[simp] theorem asked_memory : (store.asked world call).memory = world.memory := rfl

@[simp] theorem asked_runs : (store.asked world call).runs = world.runs := rfl

@[simp] theorem asked_nextId : (store.asked world call).nextId = world.nextId := rfl

@[simp] theorem asked_nextOutcome :
    (store.asked world call).nextOutcome = world.nextOutcome := rfl

end Asked

/-! ## Reading -/

section Reading

variable (world : World)

theorem runIn_exchange (client : Cluster.Client) (method : Http.Method) (path : Text)
    (body : Option Json) (special : Nat → Option Failure.Cause) :
    Action.runIn world (client.exchange method path body special)
      = ((client.membersOf path special world.nextResponse).mapError .declared,
        (cluster client).asked world (.http (client.request method path body))) := by
  unfold Cluster.Client.exchange
  rw [Action.runIn_bind_ok (Action.runIn_send _), Action.runIn_checked]
  rfl

theorem runIn_readSecret_world (store : Store) (secret : SecretReference) :
    (Action.runIn world (store.readSecret secret)).2
      = store.asked world (store.readingSecret secret) := by
  cases store with
  | memory =>
      refine (Action.runIn_bind_world _ fun _ => ?_).trans rfl
      refine (Action.observes_guarded _).bind fun _ => (Action.observes_guarded _).bind fun _ =>
        Action.observes_get.bind fun world => ?_
      cases world.memory.secret? secret with
      | none => exact Action.observes_refuse _
      | some data => exact Action.observes_pure _
  | cluster client =>
      refine (Action.runIn_bind_world _ fun _ => Action.observes_guarded _).trans ?_
      rw [runIn_exchange]
      rfl

theorem runIn_readClass_world (store : Store) (name : Json) :
    (Action.runIn world (store.readClass name)).2
      = store.asked world (store.readingClass name) := by
  cases store with
  | memory =>
      refine (Action.runIn_bind_world _ fun _ => ?_).trans rfl
      refine (Action.observes_guarded _).bind fun _ => ?_
      cases name with
      | text className =>
          refine Action.observes_get.bind fun world => ?_
          cases world.memory.classes.find? className with
          | none => exact Action.observes_refuse _
          | some parameters => exact Action.observes_pure _
      | _ => exact Action.observes_refuse _
  | cluster client =>
      refine (Action.runIn_bind_world _ fun _ => Action.observes_guarded _).trans ?_
      rw [runIn_exchange]
      rfl

theorem runIn_adminKey_world (store : Store) (secret : SecretReference) :
    (Action.runIn world (store.adminKey secret)).2
      = store.asked world (store.readingSecret secret) := by
  rw [← runIn_readSecret_world]
  exact Action.runIn_bind_world _ fun _ => Action.observes_checked _

theorem runIn_adminKey {world : World} {store : Store} {secret : SecretReference}
    {data : SecretData}
    (read : (Action.runIn world (store.readSecret secret)).1 = .ok data) :
    (Action.runIn world (store.adminKey secret)).1 = (data.key secret).mapError .declared := by
  unfold adminKey
  rw [Action.runIn_bind_ok (Prod.ext read rfl), Action.runIn_checked]

/-- Connecting reads one secret and nothing more. -/
theorem runIn_connect_world (store : Store) (parameters : ClusterParameters) :
    (Action.runIn world (store.connect parameters)).2
      = store.asked world (store.readingSecret parameters.secret) := by
  rw [← runIn_adminKey_world]
  exact Action.runIn_bind_world _ fun _ => Action.observes_pure _

end Reading

end Store

/-! ## Reading memory -/

theorem Memory.secret?_eq_some {memory : Memory} {secret : SecretReference} {data : SecretData}
    (found : memory.secret? secret = some data) :
    ∃ namespaceName name : Text, secret = ⟨.text namespaceName, .text name⟩ := by
  rcases secret with ⟨namespaceName, name⟩
  unfold secret? secretKey? at found
  split at found
  · next isNamespace isName =>
      cases isNamespace
      cases isName
      exact ⟨_, _, rfl⟩
  · cases found

theorem Memory.runIn_checkKey_text (world : World) (value : Text) :
    Action.runIn world (Action.guarded (checkKey (.text value))) = (.ok (), world) := rfl

/-- Memory answers with just the secrets that are there. -/
theorem Store.runIn_readSecret_memory {world : World} {secret : SecretReference}
    {data : SecretData} :
    (Action.runIn world (memory.readSecret secret)).1 = .ok data
      ↔ world.memory.secret? secret = some data := by
  constructor
  · intro read
    simp only [readSecret, Memory.readSecret, Action.runIn_bind_eq_ok_iff, Action.runIn_note,
      Action.runIn_guarded, Action.runIn_get] at read
    rcases read with ⟨_, _, _, _, _, _, seen, isSeen, looked⟩
    cases isSeen
    dsimp only at looked
    split at looked
    · next found =>
        cases looked
        exact found
    · cases looked
  · intro found
    rcases Memory.secret?_eq_some found with ⟨namespaceName, name, rfl⟩
    unfold readSecret Memory.readSecret
    rw [Action.runIn_bind_ok (Action.runIn_note _),
      Action.runIn_bind_ok (Memory.runIn_checkKey_text ..),
      Action.runIn_bind_ok (Memory.runIn_checkKey_text ..), Action.runIn_bind_ok Action.runIn_get]
    dsimp only
    rw [found]
    rfl

theorem Store.runIn_readClass_memory {world : World} {className : Text} {parameters : Mapping}
    (found : world.memory.classes.find? className = some parameters) :
    (Action.runIn world (memory.readClass (.text className))).1
      = .ok { name := .text className, parameters } := by
  unfold readClass Memory.readClass
  rw [Action.runIn_bind_ok (Action.runIn_note _),
    Action.runIn_bind_ok (Memory.runIn_checkKey_text ..)]
  dsimp only
  rw [Action.runIn_bind_ok Action.runIn_get]
  dsimp only
  rw [found]
  rfl

/-- Memory answers with just the classes that are there. -/
theorem Memory.found_of_readClass {world : World} {name : Json} {storageClass : StorageClass}
    (read : (Action.runIn world (readClass name)).1 = .ok storageClass) :
    ∃ className, name = .text className
      ∧ world.memory.classes.find? className = some storageClass.parameters := by
  unfold readClass at read
  rw [Action.runIn_bind_ok (Action.runIn_note _)] at read
  rcases Action.runIn_bind_eq_ok_iff.mp read with ⟨_, _, looked⟩
  rw [Action.runIn_guarded] at looked
  cases name with
  | text className =>
      simp only [Action.runIn_bind_ok Action.runIn_get] at looked
      cases found : world.memory.classes.find? className with
      | none =>
          rw [found] at looked
          cases looked
      | some parameters =>
          rw [found] at looked
          cases looked
          exact ⟨className, rfl, found⟩
  | _ => cases looked

/-! ### Refusals of memory -/

theorem Memory.refusal_of_readSecret {world : World} {secret : SecretReference}
    {cause : Failure.Cause}
    (refused : (Action.runIn world (readSecret secret)).1 = .error (.declared cause)) :
    cause = .secretNotFound secret := by
  unfold readSecret at refused
  rw [Action.runIn_bind_ok (Action.runIn_note _)] at refused
  simp only [Action.runIn_bind_eq_error_iff, Action.runIn_guarded, Action.runIn_get] at refused
  rcases refused with unkeyed | ⟨_, _, unkeyed | ⟨_, _, unseen | ⟨seen, isSeen, looked⟩⟩⟩
  · exact absurd unkeyed (by unfold checkKey; split <;> exact nofun)
  · exact absurd unkeyed (by unfold checkKey; split <;> exact nofun)
  · cases unseen
  · cases found : seen.memory.secret? secret with
    | none =>
        rw [found] at looked
        cases looked
        rfl
    | some data =>
        rw [found] at looked
        cases looked

theorem Memory.refusal_of_readClass {world : World} {name : Json} {cause : Failure.Cause}
    (refused : (Action.runIn world (readClass name)).1 = .error (.declared cause)) :
    cause = .classNotFound name := by
  unfold readClass at refused
  rw [Action.runIn_bind_ok (Action.runIn_note _)] at refused
  simp only [Action.runIn_bind_eq_error_iff, Action.runIn_guarded] at refused
  rcases refused with unkeyed | ⟨_, _, looked⟩
  · exact absurd unkeyed (by unfold checkKey; split <;> exact nofun)
  · cases name with
    | text className =>
        simp only [Action.runIn_bind_ok Action.runIn_get] at looked
        cases found : world.memory.classes.find? className with
        | none =>
            rw [found] at looked
            cases looked
            rfl
        | some parameters =>
            rw [found] at looked
            cases looked
    | _ =>
        cases looked
        rfl

def ClusterParameters.connection (parameters : ClusterParameters) (adminKey : Text) :
    Connection where
  cluster := parameters.cluster
  adminId := parameters.adminId
  adminKey := adminKey
  monitors := parameters.monitors

namespace Store

/-- There is a connection exactly if the secret is there and holds a key. -/
theorem connect_eq_ok_iff {world : World} {store : Store} {parameters : ClusterParameters}
    {connection : Connection} :
    (Action.runIn world (store.connect parameters)).1 = .ok connection
      ↔ ∃ data key, (Action.runIn world (store.readSecret parameters.secret)).1 = .ok data
          ∧ data.key parameters.secret = .ok key ∧ connection = parameters.connection key := by
  unfold connect adminKey
  simp only [Action.runIn_bind_eq_ok_iff, Action.runIn_checked, Action.runIn_pure,
    Result.mapError_eq_ok_iff]
  constructor
  · rintro ⟨key, ⟨data, read, holds⟩, equal⟩
    cases equal
    exact ⟨data, key, read, holds, rfl⟩
  · rintro ⟨data, key, read, holds, rfl⟩
    exact ⟨key, ⟨data, read, holds⟩, rfl⟩

/-- Without a connection it is the secret that is to blame. -/
theorem refusal_of_connect {world : World} {parameters : ClusterParameters}
    {cause : Failure.Cause}
    (refused : (Action.runIn world (memory.connect parameters)).1 = .error (.declared cause)) :
    cause ∈ [.secretNotFound parameters.secret, .secretEmpty parameters.secret,
      .secretInvalid parameters.secret] := by
  unfold connect adminKey readSecret at refused
  simp only [Action.runIn_bind_eq_error_iff, Action.runIn_checked, Action.runIn_pure] at refused
  rcases refused with (unread | ⟨data, _, unusable⟩) | ⟨_, _, nothing⟩
  · simp [Memory.refusal_of_readSecret unread]
  · cases keyed : data.key parameters.secret with
    | ok key =>
        rw [keyed] at unusable
        cases unusable
    | error other =>
        rw [keyed] at unusable
        cases unusable
        rcases SecretData.refusal_of_key keyed with rfl | rfl
        · simp
        · simp
  · cases nothing

/-- A secret that is named by texts is looked for without a fault. -/
theorem declared_of_connect {world : World} {parameters : ClusterParameters}
    {namespaceName name : Text} {failure : Failure}
    (isSecret : parameters.secret = ⟨.text namespaceName, .text name⟩)
    (refused : (Action.runIn world (memory.connect parameters)).1 = .error failure) :
    ∃ cause, failure = .declared cause := by
  unfold connect adminKey readSecret at refused
  simp only [Action.runIn_bind_eq_error_iff, Action.runIn_checked, Action.runIn_pure] at refused
  rcases refused with (unread | ⟨data, _, unusable⟩) | ⟨_, _, nothing⟩
  · unfold Memory.readSecret at unread
    rw [isSecret, Action.runIn_bind_ok (Action.runIn_note _),
      Action.runIn_bind_ok (Memory.runIn_checkKey_text ..),
      Action.runIn_bind_ok (Memory.runIn_checkKey_text ..),
      Action.runIn_bind_ok Action.runIn_get] at unread
    split at unread
    · cases unread
    · cases unread
      exact ⟨_, rfl⟩
  · cases keyed : data.key parameters.secret with
    | ok key =>
        rw [keyed] at unusable
        cases unusable
    | error cause =>
        rw [keyed] at unusable
        cases unusable
        exact ⟨cause, rfl⟩
  · cases nothing

/-! ## Writing -/

section Writing

variable (world : World)

def written (memory : Memory) (namespaceName name : Text) (data : SecretData) : Store → Memory
  | .memory => memory.withSecret namespaceName name data
  | cluster _ => memory

theorem runIn_createSecret_memory (namespaceName name : Text) (entries : List (Text × Octets)) :
    let secret : SecretReference := ⟨.text namespaceName, .text name⟩
    Action.runIn world (memory.createSecret secret (.ofOctets entries))
      = if (world.memory.secrets.find? (namespaceName, name)).isSome then
          (.error (.declared (.secretExists secret)),
            memory.asked world (memory.creatingSecret secret entries))
        else (.ok (),
          { memory.asked world (memory.creatingSecret secret entries) with
            memory := world.memory.withSecret namespaceName name (.ofOctets entries) }) := by
  intro secret
  unfold createSecret Memory.createSecret
  simp only [secret]
  rw [Action.runIn_bind_ok (Action.runIn_note _),
    Action.runIn_bind_ok (Memory.runIn_checkKey_text ..),
    Action.runIn_bind_ok (Memory.runIn_checkKey_text ..), Action.runIn_bind_ok Action.runIn_get]
  simp only [Memory.secretKey?]
  cases world.memory.secrets.find? (namespaceName, name) with
  | none => rfl
  | some data => rfl

theorem createSecret_of_free {namespaceName name : Text}
    (free : world.memory.secrets.find? (namespaceName, name) = none)
    (entries : List (Text × Octets)) :
    (Action.runIn world
      (memory.createSecret ⟨.text namespaceName, .text name⟩ (.ofOctets entries))).1 = .ok () := by
  rw [runIn_createSecret_memory, free]
  rfl

theorem runIn_createSecret_cluster (client : Cluster.Client) (secret : SecretReference)
    (entries : List (Text × Octets)) :
    let store := cluster client
    ∃ result, Action.runIn world (store.createSecret secret (.ofOctets entries))
      = (result, store.asked world (store.creatingSecret secret entries)) := by
  intro store
  refine ⟨_, Prod.ext rfl ?_⟩
  simp only [createSecret, Cluster.Client.createSecret, Cluster.Client.encodeEntries_ofOctets]
  rw [Action.runIn_bind_ok (Action.runIn_guarded _)]
  refine (Action.runIn_bind_world _ fun _ => Action.observes_pure _).trans ?_
  rw [runIn_exchange]
  rfl

/-- A secret is written by one call.  If that fails, everything stays as it was; in
memory it succeeds only under a name that is free. -/
theorem runIn_createSecret (store : Store) (namespaceName name : Text)
    (entries : List (Text × Octets)) :
    let secret : SecretReference := ⟨.text namespaceName, .text name⟩
    let asked := store.asked world (store.creatingSecret secret entries)
    (∃ failure, Action.runIn world (store.createSecret secret (.ofOctets entries))
        = (.error failure, asked))
      ∨ Action.runIn world (store.createSecret secret (.ofOctets entries))
          = (.ok (), { asked with
              memory := store.written world.memory namespaceName name (.ofOctets entries) })
        ∧ (store = memory → world.memory.secrets.find? (namespaceName, name) = none) := by
  intro secret asked
  cases store with
  | memory =>
      rw [runIn_createSecret_memory]
      cases found : world.memory.secrets.find? (namespaceName, name) with
      | none => exact .inr ⟨rfl, fun _ => rfl⟩
      | some data => exact .inl ⟨_, rfl⟩
  | cluster client =>
      rcases runIn_createSecret_cluster world client secret entries with ⟨result, ran⟩
      cases result with
      | error failure => exact .inl ⟨failure, ran⟩
      | ok done => exact .inr ⟨ran, fun isMemory => nomatch isMemory⟩

end Writing

end Store

end ShareProvisioner
