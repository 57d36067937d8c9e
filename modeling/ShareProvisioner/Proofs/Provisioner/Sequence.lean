import ShareProvisioner.Proofs.Provisioner.Provision

/-!
# The order of calls

A provisioner commits itself late: the administrator's key is read first, the share is
created next, and only when the agent has reported it completely is the new user's key
published.  Whatever cuts an attempt short, the calls made up to then are a beginning
of this sequence.
-/

namespace ShareProvisioner.Provisioner

variable {provisioner : Provisioner} {store : Store} {claim : Claim} {world : World}

def creation (provisioner : Provisioner) (world : World) (environment : List (Text × Text)) :
    Agent.Invocation where
  arguments := provisioner.agentPath :: Agent.words .create world.nextShare world.nextUser
  environment := environment

theorem creation_never_destroys (environment : List (Text × Text)) :
    ("-r" : Text) ∉ (provisioner.creation world environment).arguments.tail := by
  simp [creation, Agent.words, World.nextShare, World.nextUser, shareName, userName,
    Text.ofString]

theorem Launches.invocation_eq {parameters : ClusterParameters} {connection : Connection}
    {invocation : Agent.Invocation}
    (launches : Launches provisioner store claim world parameters connection invocation) :
    invocation = provisioner.creation world invocation.environment := by
  cases invocation
  have arguments := Agent.arguments_of_invocation launches.invoked
  simp_all [creation]

theorem Launches.adminKey_ne_nil {parameters : ClusterParameters} {connection : Connection}
    {invocation : Agent.Invocation}
    (launches : Launches provisioner store claim world parameters connection invocation) :
    connection.adminKey ≠ [] := by
  rcases Store.connect_eq_ok_iff.mp launches.connected with ⟨data, key, _, holds, rfl⟩
  exact SecretData.key_ne_nil holds

/-- The calls of an attempt that nothing cuts short, in their order. -/
def plannedCalls (provisioner : Provisioner) (store : Store) (claim : Claim) (world : World)
    (secret : SecretReference) (environment : List (Text × Text)) (key : Octets) : List Call :=
  [store.readingSecret secret, .agent (provisioner.creation world environment),
    store.creatingSecret (publishedSecret claim world) [(secretEntry, key)]]

/-- How the calls that an attempt makes depend on what goes before them. -/
structure PublishesLast (provisioner : Provisioner) (store : Store) (claim : Claim)
    (world : World) (result : Except Failure Volume) (made : List Call)
    (secret : SecretReference) (environment : List (Text × Text)) (key : Octets) : Prop where
  ordered : made <+: provisioner.plannedCalls store claim world secret environment key
  unasked : (claim.selector.isSome ∨ ∃ failure,
    Parameters.resolve (.ofTexts claim.parameters) = .error failure) → made = []
  reads : made ≠ [] → ∃ parameters, claim.Admits parameters ∧ parameters.secret = secret
  /-- The agent is run only for a cluster that has been resolved, with a key. -/
  launches : 1 < made.length → ∃ parameters connection, claim.Admits parameters
    ∧ (Action.runIn world (store.connect parameters)).1 = .ok connection
    ∧ connection.adminKey ≠ []
    ∧ connection.environment = (provisioner.creation world environment).environmentValues
  /-- The secret is written only after the agent has reported the share. -/
  writes : 2 < made.length → ∃ record, world.nextOutcome.Reports record ∧ record.IsComplete
    ∧ CodePoint.char '/' ∈ record.path ∧ Utf8.encode record.key = .ok key
  /-- There is a volume exactly if the secret has been written. -/
  returns : (∃ volume, result = .ok volume) ↔ 2 < made.length
    ∧ (Action.runIn (world.created store secret (provisioner.creation world environment))
        (store.createSecret (publishedSecret claim world) (.ofOctets [(secretEntry, key)]))).1
          = .ok ()
  runsOnce : (made.filterMap Call.invocation?).length ≤ 1
  neverDestroys : ∀ invocation ∈ made.filterMap Call.invocation?,
    ("-r" : Text) ∉ invocation.arguments.tail

private theorem published_calls (call : Call) (secret : SecretReference)
    (invocation : Agent.Invocation) :
    (store.asked (world.created store secret invocation) call).calls
      = world.calls ++ [store.readingSecret secret, .agent invocation, call] := by
  simp

section Stages

variable {failure : Failure} {parameters : ClusterParameters} {connection : Connection}
  {invocation : Agent.Invocation} {record : Agent.Record} {exportPath : Text} {key : Octets}

private theorem publishesLast_unasked (secret : SecretReference)
    (environment : List (Text × Text)) (key : Octets) :
    PublishesLast provisioner store claim world (.error failure) [] secret environment key where
  ordered := List.nil_prefix
  unasked _ := rfl
  reads asked := absurd rfl asked
  launches long := by simp at long
  writes long := by simp at long
  returns := by simp
  runsOnce := by simp
  neverDestroys := by simp

private theorem publishesLast_read (admits : claim.Admits parameters)
    (environment : List (Text × Text)) (key : Octets) :
    PublishesLast provisioner store claim world (.error failure)
      [store.readingSecret parameters.secret] parameters.secret environment key where
  ordered := ⟨_, rfl⟩
  unasked refused := absurd refused admits.not_refused
  reads _ := ⟨parameters, admits, rfl⟩
  launches long := by simp at long
  writes long := by simp at long
  returns := by simp
  runsOnce := by simp
  neverDestroys := by simp

private theorem publishesLast_run
    (launches : Launches provisioner store claim world parameters connection invocation)
    (key : Octets) :
    PublishesLast provisioner store claim world (.error failure)
      [store.readingSecret parameters.secret, .agent invocation] parameters.secret
      invocation.environment key where
  ordered := by
    rw [plannedCalls, ← launches.invocation_eq]
    exact ⟨_, rfl⟩
  unasked refused := absurd refused launches.admits.not_refused
  reads _ := ⟨parameters, launches.admits, rfl⟩
  launches _ := ⟨parameters, connection, launches.admits, launches.connected,
    launches.adminKey_ne_nil, (Agent.invocation_eq_ok_iff.mp launches.invoked).2.1⟩
  writes long := by simp at long
  returns := by simp
  runsOnce := by simp
  neverDestroys := by
    rw [launches.invocation_eq]
    simpa [List.filterMap_cons] using creation_never_destroys _

private theorem publishesLast_write {result : Except Failure Volume}
    (publishes : Publishes provisioner store claim world parameters connection invocation
      record exportPath key)
    (agrees : (∃ volume, result = .ok volume)
      ↔ (Action.runIn (world.created store parameters.secret invocation)
        (store.createSecret (publishedSecret claim world) (.ofOctets [(secretEntry, key)]))).1
          = .ok ()) :
    PublishesLast provisioner store claim world result
      [store.readingSecret parameters.secret, .agent invocation,
        store.creatingSecret (publishedSecret claim world) [(secretEntry, key)]]
      parameters.secret invocation.environment key where
  ordered := ⟨[], by rw [plannedCalls, ← publishes.invocation_eq, List.append_nil]⟩
  unasked refused := absurd refused publishes.admits.not_refused
  reads _ := ⟨parameters, publishes.admits, rfl⟩
  launches _ := ⟨parameters, connection, publishes.admits, publishes.connected,
    publishes.adminKey_ne_nil, (Agent.invocation_eq_ok_iff.mp publishes.invoked).2.1⟩
  writes _ := by
    rcases publishes.reports with ⟨out, err, exited, parsed⟩
    exact ⟨record, ⟨out, err, exited, parsed⟩, Agent.Record.parse_isComplete parsed,
      Agent.slash_mem_of_exportPath publishes.located, publishes.encoded⟩
  returns := by
    rw [← publishes.invocation_eq]
    simpa using agrees
  runsOnce := by simp
  neverDestroys := by
    rw [publishes.invocation_eq]
    simpa [List.filterMap_cons] using creation_never_destroys _

end Stages

/-- An attempt to satisfy a claim reads the administrator's key, runs the agent and
publishes the new user's key, in this order, and stops where one of these fails. -/
theorem provision_publishes_last (provisioner : Provisioner) (store : Store) (claim : Claim)
    (world : World) :
    ∃ made secret environment key,
      (Action.runIn world (provisioner.provision store claim)).2.calls = world.calls ++ made
        ∧ PublishesLast provisioner store claim world
          (Action.runIn world (provisioner.provision store claim)).1 made secret environment
          key := by
  have course := provision_course provisioner store claim world
  generalize (Action.runIn world (provisioner.provision store claim)).1 = result at course ⊢
  generalize (Action.runIn world (provisioner.provision store claim)).2 = after at course ⊢
  cases course with
  | selectorGiven given => exact ⟨[], ⟨.null, .null⟩, [], [], by simp, publishesLast_unasked ..⟩
  | parametersRefused unselective refused =>
      exact ⟨[], ⟨.null, .null⟩, [], [], by simp, publishesLast_unasked ..⟩
  | unconnected admits refused => exact ⟨_, _, [], [], rfl, publishesLast_read admits ..⟩
  | unlaunched admits connected refused =>
      exact ⟨_, _, [], [], rfl, publishesLast_read admits ..⟩
  | agentFailed launches failed =>
      exact ⟨_, _, _, [], World.created_calls .., publishesLast_run launches _⟩
  | recordRefused launches printed refused =>
      exact ⟨_, _, _, [], World.created_calls .., publishesLast_run launches _⟩
  | pathRefused launches reports refused =>
      exact ⟨_, _, _, [], World.created_calls .., publishesLast_run launches _⟩
  | keyUnencodable launches reports located unencodable =>
      exact ⟨_, _, _, [], World.created_calls .., publishesLast_run launches _⟩
  | unpublished publishes refused =>
      exact ⟨_, _, _, _, published_calls .., publishesLast_write publishes (by simp [refused])⟩
  | published publishes written free =>
      exact ⟨_, _, _, _, published_calls .., publishesLast_write publishes (by simp [written])⟩

end ShareProvisioner.Provisioner
