import ShareProvisioner.Provisioner
import ShareProvisioner.Proofs.Agent.Invocation
import ShareProvisioner.Proofs.Agent.Record
import ShareProvisioner.Proofs.Outside.Store
import ShareProvisioner.Proofs.Secret

/-!
# The course of provisioning

An attempt to satisfy a claim reads one secret, runs the agent once and writes one
secret, in this order, and it stops at the first of these that fails.  The rules of
`ProvisionCourse` list all points at which it can end, each with what must have held to
get there and with the world that it leaves.
-/

namespace ShareProvisioner

/-- Whether a claim passes the checks that need no question to the outside. -/
structure Claim.Admits (claim : Claim) (parameters : ClusterParameters) : Prop where
  unselective : claim.selector = none
  resolved : Parameters.resolve (.ofTexts claim.parameters) = .ok parameters

theorem Claim.Admits.not_refused {claim : Claim} {parameters : ClusterParameters}
    (admits : claim.Admits parameters) :
    ¬(claim.selector.isSome ∨ ∃ failure,
      Parameters.resolve (.ofTexts claim.parameters) = .error failure) := by
  rintro (given | ⟨failure, refused⟩)
  · simp [admits.unselective] at given
  · simp [admits.resolved] at refused

namespace World

def nextShare (world : World) : Text :=
  Provisioner.shareName (Action.identifierText world.nextId)

def nextUser (world : World) : Text :=
  Provisioner.userName (Action.identifierText (world.nextId + 1))

def named (world : World) : World :=
  { world with nextId := world.nextId + 2 }

def connected (world : World) (store : Store) (secret : SecretReference) : World :=
  store.asked world (store.readingSecret secret)

def created (world : World) (store : Store) (secret : SecretReference)
    (invocation : Agent.Invocation) : World :=
  (world.connected store secret).named.launched invocation

section Fields

variable (world : World) (store : Store) (secret : SecretReference)
  (invocation : Agent.Invocation)

@[simp] theorem connected_calls :
    (world.connected store secret).calls = world.calls ++ [store.readingSecret secret] := rfl

@[simp] theorem connected_memory : (world.connected store secret).memory = world.memory := rfl

@[simp] theorem connected_nextId : (world.connected store secret).nextId = world.nextId := rfl

@[simp] theorem named_calls : world.named.calls = world.calls := rfl

@[simp] theorem named_memory : world.named.memory = world.memory := rfl

@[simp] theorem named_nextId : world.named.nextId = world.nextId + 2 := rfl

@[simp] theorem created_calls :
    (world.created store secret invocation).calls
      = world.calls ++ [store.readingSecret secret, .agent invocation] :=
  List.append_assoc ..

@[simp] theorem created_memory :
    (world.created store secret invocation).memory = world.memory := rfl

@[simp] theorem created_nextId :
    (world.created store secret invocation).nextId = world.nextId + 2 := rfl

end Fields

end World

namespace Provisioner

def publishedSecret (claim : Claim) (world : World) : SecretReference where
  namespaceName := .text claim.namespaceName
  name := .text (secretName world.nextUser)

section Course

variable (provisioner : Provisioner) (store : Store) (claim : Claim) (world : World)

/-- Whether an attempt comes to run the agent. -/
structure Launches (parameters : ClusterParameters) (connection : Connection)
    (invocation : Agent.Invocation) : Prop where
  admits : claim.Admits parameters
  connected : (Action.runIn world (store.connect parameters)).1 = .ok connection
  invoked : Agent.invocation provisioner.agentPath .create (.text world.nextShare)
    (.text world.nextUser) connection = .ok invocation

/-- Whether an attempt comes to publish the key that the agent reports. -/
structure Publishes (parameters : ClusterParameters) (connection : Connection)
    (invocation : Agent.Invocation) (record : Agent.Record) (exportPath : Text)
    (key : Octets) : Prop
    extends Launches provisioner store claim world parameters connection invocation where
  reports : world.nextOutcome.Reports record
  located : Agent.exportPath record.path = .ok exportPath
  encoded : Utf8.encode record.key = .ok key

/-- How an attempt to satisfy a claim goes: with which result, and to which world. -/
inductive ProvisionCourse : Except Failure Volume → World → Prop
  | selectorGiven (given : claim.selector.isSome) :
      ProvisionCourse (.error (.declared .selectorGiven)) world
  | parametersRefused {failure} (unselective : claim.selector = none)
      (refused : Parameters.resolve (.ofTexts claim.parameters) = .error failure) :
      ProvisionCourse (.error failure) world
  | unconnected {parameters failure} (admits : claim.Admits parameters)
      (refused : (Action.runIn world (store.connect parameters)).1 = .error failure) :
      ProvisionCourse (.error failure) (world.connected store parameters.secret)
  | unlaunched {parameters connection fault} (admits : claim.Admits parameters)
      (connected : (Action.runIn world (store.connect parameters)).1 = .ok connection)
      (refused : Agent.invocation provisioner.agentPath .create (.text world.nextShare)
        (.text world.nextUser) connection = .error fault) :
      ProvisionCourse (.error (.unexpected fault)) (world.connected store parameters.secret).named
  | agentFailed {parameters connection invocation cause}
      (launches : Launches provisioner store claim world parameters connection invocation)
      (failed : world.nextOutcome.output provisioner.agentPath .create world.nextShare
        = .error cause) :
      ProvisionCourse (.error (.declared cause)) (world.created store parameters.secret invocation)
  | recordRefused {parameters connection invocation output cause}
      (launches : Launches provisioner store claim world parameters connection invocation)
      (printed : world.nextOutcome.output provisioner.agentPath .create world.nextShare
        = .ok output)
      (refused : Agent.Record.parse output = .error cause) :
      ProvisionCourse (.error (.declared cause)) (world.created store parameters.secret invocation)
  | pathRefused {parameters connection invocation record cause}
      (launches : Launches provisioner store claim world parameters connection invocation)
      (reports : world.nextOutcome.Reports record)
      (refused : Agent.exportPath record.path = .error cause) :
      ProvisionCourse (.error (.declared cause)) (world.created store parameters.secret invocation)
  | keyUnencodable {parameters connection invocation record exportPath fault}
      (launches : Launches provisioner store claim world parameters connection invocation)
      (reports : world.nextOutcome.Reports record)
      (located : Agent.exportPath record.path = .ok exportPath)
      (unencodable : Utf8.encode record.key = .error fault) :
      ProvisionCourse (.error (.unexpected (.unencodable fault)))
        (world.created store parameters.secret invocation)
  | unpublished {parameters connection invocation record exportPath key failure}
      (publishes : Publishes provisioner store claim world parameters connection invocation
        record exportPath key)
      (refused : (Action.runIn (world.created store parameters.secret invocation)
        (store.createSecret (publishedSecret claim world) (.ofOctets [(secretEntry, key)]))).1
          = .error failure) :
      ProvisionCourse (.error failure)
        (store.asked (world.created store parameters.secret invocation)
          (store.creatingSecret (publishedSecret claim world) [(secretEntry, key)]))
  | published {parameters connection invocation record exportPath key}
      (publishes : Publishes provisioner store claim world parameters connection invocation
        record exportPath key)
      (written : (Action.runIn (world.created store parameters.secret invocation)
        (store.createSecret (publishedSecret claim world) (.ofOctets [(secretEntry, key)]))).1
          = .ok ())
      (free : store = .memory → world.memory.secrets.find?
        (claim.namespaceName, secretName world.nextUser) = none) :
      ProvisionCourse
        (.ok (provisioner.volumeFor claim connection.monitors world.nextShare
          (secretName world.nextUser) exportPath record.user))
        { store.asked (world.created store parameters.secret invocation)
            (store.creatingSecret (publishedSecret claim world) [(secretEntry, key)]) with
          memory := store.written world.memory claim.namespaceName
            (secretName world.nextUser) (.ofOctets [(secretEntry, key)]) }

end Course

/-! ## Running the agent -/

variable {provisioner : Provisioner} {world : World}

theorem runIn_runAgent_error {mode : Agent.Mode} {share user : Json} {connection : Connection}
    {fault : Failure.Fault}
    (refused : Agent.invocation provisioner.agentPath mode share user connection = .error fault) :
    Action.runIn world (provisioner.runAgent mode share user connection)
      = (.error (.unexpected fault), world) := by
  unfold runAgent
  rw [refused, Action.runIn_bind_error (Action.runIn_guarded _)]

theorem runIn_runAgent_ok {mode : Agent.Mode} {share user : Json} {connection : Connection}
    {invocation : Agent.Invocation}
    (invoked : Agent.invocation provisioner.agentPath mode share user connection
      = .ok invocation) :
    Action.runIn world (provisioner.runAgent mode share user connection)
      = ((world.nextOutcome.output provisioner.agentPath mode share.display).mapError .declared,
        world.launched invocation) := by
  unfold runAgent
  rw [invoked, Action.runIn_bind_ok (Action.runIn_guarded _),
    Action.runIn_bind_ok (Action.runIn_launch _), Action.runIn_checked]

theorem runIn_createShare_ok {share user : Text} {connection : Connection}
    {invocation : Agent.Invocation}
    (invoked : Agent.invocation provisioner.agentPath .create (.text share) (.text user)
      connection = .ok invocation) :
    Action.runIn world (provisioner.createShare share user connection)
      = ((world.nextOutcome.output provisioner.agentPath .create share
          >>= Agent.Record.parse).mapError .declared, world.launched invocation) := by
  unfold createShare
  rw [Action.runIn_bind, runIn_runAgent_ok invoked, Json.display_text]
  cases world.nextOutcome.output provisioner.agentPath .create share with
  | error cause => rfl
  | ok output => exact Action.runIn_checked _

/-! ## The course -/

variable {store : Store} {claim : Claim}

/-- Once the cluster is known and the names are taken, what remains goes by the rules. -/
private theorem allocate_course {parameters : ClusterParameters} {connection : Connection}
    (admits : claim.Admits parameters)
    (connected : (Action.runIn world (store.connect parameters)).1 = .ok connection) :
    let outcome := Action.runIn (world.connected store parameters.secret).named
      (provisioner.allocate store claim connection world.nextShare world.nextUser)
    ProvisionCourse provisioner store claim world outcome.1 outcome.2 := by
  intro outcome
  unfold outcome allocate
  cases invoked : Agent.invocation provisioner.agentPath .create (.text world.nextShare)
      (.text world.nextUser) connection with
  | error fault =>
      have refused : Action.runIn (world.connected store parameters.secret).named
          (provisioner.createShare world.nextShare world.nextUser connection)
            = (.error (.unexpected fault), _) :=
        Action.runIn_bind_error (runIn_runAgent_error invoked) _
      rw [Action.runIn_bind_error refused]
      exact .unlaunched admits connected invoked
  | ok invocation =>
  have launches : Launches provisioner store claim world parameters connection invocation :=
    ⟨admits, connected, invoked⟩
  have created : Action.runIn (world.connected store parameters.secret).named
      (provisioner.createShare world.nextShare world.nextUser connection)
        = ((world.nextOutcome.output provisioner.agentPath .create world.nextShare
            >>= Agent.Record.parse).mapError .declared,
          world.created store parameters.secret invocation) := runIn_createShare_ok invoked
  cases printed : world.nextOutcome.output provisioner.agentPath .create world.nextShare with
  | error cause =>
      rw [printed] at created
      rw [Action.runIn_bind_error created]
      exact .agentFailed launches printed
  | ok output =>
  cases parsed : Agent.Record.parse output with
  | error cause =>
      have refused : (Except.ok output >>= Agent.Record.parse) = .error cause := parsed
      rw [printed, refused] at created
      rw [Action.runIn_bind_error created]
      exact .recordRefused launches printed parsed
  | ok record =>
  have accepted : (Except.ok output >>= Agent.Record.parse) = .ok record := parsed
  rw [printed, accepted] at created
  rw [Action.runIn_bind_ok created]
  have reports : world.nextOutcome.Reports record := by
    rcases Agent.Outcome.output_eq_ok_iff.mp printed with ⟨out, err, exited, rfl⟩
    exact ⟨out, err, exited, parsed⟩
  cases located : Agent.exportPath record.path with
  | error cause =>
      rw [Action.runIn_bind_error (Action.runIn_checked _)]
      exact .pathRefused launches reports located
  | ok exportPath =>
  rw [Action.runIn_bind_ok (Action.runIn_checked _)]
  cases encoded : Utf8.encode record.key with
  | error fault =>
      rw [Action.runIn_bind_error (Action.runIn_guarded _)]
      exact .keyUnencodable launches reports located encoded
  | ok key =>
  rw [Action.runIn_bind_ok (Action.runIn_guarded _), ← SecretData.ofOctets_singleton]
  have publishes : Publishes provisioner store claim world parameters connection invocation
      record exportPath key := ⟨launches, reports, located, encoded⟩
  rcases Store.runIn_createSecret (world.created store parameters.secret invocation) store
      claim.namespaceName (secretName world.nextUser) [(secretEntry, key)] with
    ⟨failure, refused⟩ | ⟨written, free⟩
  · rw [Action.runIn_bind_error refused]
    exact .unpublished publishes (congrArg Prod.fst refused)
  · rw [Action.runIn_bind_ok written]
    exact .published publishes (congrArg Prod.fst written) free

/-- Every attempt to satisfy a claim goes by the rules. -/
theorem provision_course (provisioner : Provisioner) (store : Store) (claim : Claim)
    (world : World) :
    ProvisionCourse provisioner store claim world
      (Action.runIn world (provisioner.provision store claim)).1
      (Action.runIn world (provisioner.provision store claim)).2 := by
  unfold provision
  cases selector : claim.selector with
  | some given =>
      rw [if_pos (Option.isSome_some)]
      exact .selectorGiven (by rw [selector, Option.isSome_some])
  | none =>
  rw [if_neg (by simp)]
  cases resolved : Parameters.resolve (.ofTexts claim.parameters) with
  | error failure =>
      rw [Action.runIn_bind_error (Action.runIn_lift _)]
      exact .parametersRefused selector resolved
  | ok parameters =>
  rw [Action.runIn_bind_ok (Action.runIn_lift _)]
  have admits : claim.Admits parameters := ⟨selector, resolved⟩
  have asked := Store.runIn_connect_world world store parameters
  cases connected : (Action.runIn world (store.connect parameters)).1 with
  | error failure =>
      rw [Action.runIn_bind_error (Prod.ext connected asked)]
      exact .unconnected admits connected
  | ok connection =>
      rw [Action.runIn_bind_ok (Prod.ext connected asked),
        Action.runIn_bind_ok Action.runIn_freshIdentifier,
        Action.runIn_bind_ok Action.runIn_freshIdentifier]
      exact allocate_course admits connected

/-! ## What an attempt leaves behind -/

theorem Launches.eq {parameters otherParameters : ClusterParameters}
    {connection otherConnection : Connection} {invocation otherInvocation : Agent.Invocation}
    (launches : Launches provisioner store claim world parameters connection invocation)
    (other : Launches provisioner store claim world otherParameters otherConnection
      otherInvocation) :
    parameters = otherParameters ∧ connection = otherConnection
      ∧ invocation = otherInvocation := by
  cases launches.admits.resolved.symm.trans other.admits.resolved
  cases launches.connected.symm.trans other.connected
  cases launches.invoked.symm.trans other.invoked
  exact ⟨rfl, rfl, rfl⟩

section Course

variable {result : Except Failure Volume} {after : World}

theorem ProvisionCourse.publishes {volume : Volume}
    (course : ProvisionCourse provisioner store claim world (.ok volume) after) :
    ∃ parameters connection invocation record exportPath key,
      Publishes provisioner store claim world parameters connection invocation record exportPath
        key
      ∧ volume = provisioner.volumeFor claim connection.monitors world.nextShare
        (secretName world.nextUser) exportPath record.user
      ∧ .agent invocation ∈ after.calls
      ∧ (store = .memory → world.memory.secrets.find?
        (claim.namespaceName, secretName world.nextUser) = none)
      ∧ after.memory = store.written world.memory claim.namespaceName
        (secretName world.nextUser) (.ofOctets [(secretEntry, key)]) := by
  cases course with
  | published publishes written free =>
      exact ⟨_, _, _, _, _, _, publishes, rfl, by simp, free, rfl⟩

theorem ProvisionCourse.nextId_le
    (course : ProvisionCourse provisioner store claim world result after) :
    world.nextId ≤ after.nextId := by
  cases course <;> simp

theorem ProvisionCourse.memory_of_error {failure : Failure}
    (course : ProvisionCourse provisioner store claim world (.error failure) after) :
    after.memory = world.memory := by
  cases course <;> simp

/-- An attempt that runs the agent takes two identifiers. -/
theorem ProvisionCourse.launches_of_call {invocation : Agent.Invocation}
    (course : ProvisionCourse provisioner store claim world result after)
    (quiet : world.calls = []) (called : .agent invocation ∈ after.calls) :
    (∃ parameters connection,
        Launches provisioner store claim world parameters connection invocation)
      ∧ after.nextId = world.nextId + 2 := by
  cases course with
  | selectorGiven given => simp [quiet] at called
  | parametersRefused unselective refused => simp [quiet] at called
  | unconnected admits refused => simp [quiet] at called
  | unlaunched admits connected refused => simp [quiet] at called
  | agentFailed launches failed
  | recordRefused launches printed refused
  | pathRefused launches reports refused
  | keyUnencodable launches reports located unencodable =>
      simp [quiet] at called
      exact ⟨⟨_, _, called ▸ launches⟩, rfl⟩
  | unpublished publishes refused
  | published publishes written free =>
      simp [quiet] at called
      exact ⟨⟨_, _, called ▸ publishes.toLaunches⟩, rfl⟩

end Course

end Provisioner

end ShareProvisioner
