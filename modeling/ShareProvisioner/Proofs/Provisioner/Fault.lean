import ShareProvisioner.Proofs.Lifecycle.History
import ShareProvisioner.Proofs.Parameters
import ShareProvisioner.Proofs.Provisioner.Provision

/-!
# Failing outside the taxonomy

Callers are told to expect declared failures only.  With secrets in memory an attempt to
satisfy a claim keeps to this but for two faults.  What the agent is to be told cannot be
handed to a process; or the key that it reports cannot be encoded, and then the share has
been created already.
-/

namespace ShareProvisioner

theorem Action.identifierText_isPlain (number : Nat) : (identifierText number).IsPlain :=
  Text.IsPlain.append (by decide) (Text.hexadecimal_isPlain 12 number)

theorem Utf8.exists_encode_iff (text : Text) :
    (∃ octets, encode text = .ok octets) ↔ text.isScalar = true :=
  (encodeFrom_eq_ok_iff text 0).trans List.all_eq_true.symm

/-- A claim that passes its checks can be refused by memory for a declared cause only. -/
theorem Claim.Admits.declared {claim : Claim} {parameters : ClusterParameters} {world : World}
    {failure : Failure} (admits : claim.Admits parameters)
    (refused : (Action.runIn world (Store.memory.connect parameters)).1 = .error failure) :
    ∃ cause, failure = .declared cause := by
  rcases Parameters.secret_of_resolve (Mapping.ofTexts_isTextual _).2 admits.resolved with
    ⟨namespaceName, name, isSecret⟩
  exact Store.declared_of_connect isSecret refused

theorem Agent.Outcome.Reports.parse_output {outcome : Outcome} {record : Record}
    (reports : outcome.Reports record) {path share output : Text} {mode : Mode}
    (printed : outcome.output path mode share = .ok output) :
    Record.parse output = .ok record := by
  rcases reports with ⟨standardOutput, standardError, rfl, parsed⟩
  cases printed
  exact parsed

namespace Provisioner

/-- Whether a process takes all that the agent is told about a cluster. -/
structure CanTell (provisioner : Provisioner) (connection : Connection) : Prop where
  path : provisioner.agentPath.IsPassable
  settings : ∀ setting ∈ connection.environment,
    ∃ text, setting.2 = .text text ∧ text.IsPassable

variable {provisioner : Provisioner} {claim : Claim} {world : World}

/-- The names that an attempt takes are never in the way. -/
theorem exists_invocation_iff_canTell {connection : Connection} :
    (∃ invocation, Agent.invocation provisioner.agentPath .create (.text world.nextShare)
        (.text world.nextUser) connection = .ok invocation)
      ↔ provisioner.CanTell connection := by
  have sharePlain : world.nextShare.IsPlain :=
    .append (by decide) (Action.identifierText_isPlain world.nextId)
  have userPlain : world.nextUser.IsPlain :=
    .append (by decide) (Action.identifierText_isPlain (world.nextId + 1))
  have options : ∀ option ∈ [("-n" : Text), "-u"], option.IsPassable := by decide
  rw [Agent.exists_invocation_iff]
  simp only [Agent.words, List.forall_mem_cons] at options ⊢
  constructor
  · rintro ⟨words, settings⟩
    exact ⟨words.1, settings⟩
  · rintro ⟨path, settings⟩
    exact ⟨⟨path, options.1, sharePlain.isPassable, options.2.1, userPlain.isPassable, by simp⟩,
      settings⟩

/-- The ways to end in a fault, each with the calls made until then. -/
inductive Faulty (provisioner : Provisioner) (claim : Claim) (world : World) :
    List Call → Prop
  | untold {parameters connection} (admits : claim.Admits parameters)
      (connected : (Action.runIn world (Store.memory.connect parameters)).1 = .ok connection)
      (cannot : ¬provisioner.CanTell connection) :
      Faulty provisioner claim world [.readSecret parameters.secret]
  | unwritten {parameters connection invocation record exportPath}
      (launches : Launches provisioner .memory claim world parameters connection invocation)
      (reports : world.nextOutcome.Reports record)
      (located : Agent.exportPath record.path = .ok exportPath)
      (unscalar : record.key.isScalar = false) :
      Faulty provisioner claim world [.readSecret parameters.secret, .agent invocation]

theorem Launches.canTell {store : Store} {parameters : ClusterParameters}
    {connection : Connection} {invocation : Agent.Invocation}
    (launches : Launches provisioner store claim world parameters connection invocation) :
    provisioner.CanTell connection :=
  exists_invocation_iff_canTell.mp ⟨invocation, launches.invoked⟩

section Course

variable {after : World}

theorem ProvisionCourse.faulty {fault : Failure.Fault}
    (course : ProvisionCourse provisioner .memory claim world (.error (.unexpected fault)) after) :
    ∃ made, after.calls = world.calls ++ made ∧ Faulty provisioner claim world made := by
  have texts := Mapping.ofTexts_isTextual claim.parameters
  cases course with
  | parametersRefused unselective refused =>
      rcases Parameters.declared_of_resolve texts.1 texts.2 refused with ⟨cause, declared⟩
      cases declared
  | unconnected admits refused =>
      rcases admits.declared refused with ⟨cause, declared⟩
      cases declared
  | unlaunched admits connected refused =>
      refine ⟨_, rfl, .untold admits connected fun canTell => ?_⟩
      rcases exists_invocation_iff_canTell.mpr canTell with ⟨invocation, invoked⟩
      exact nomatch refused.symm.trans invoked
  | keyUnencodable launches reports located unencodable =>
      refine ⟨_, World.created_calls .., .unwritten launches reports located
        (Bool.eq_false_iff.mpr fun scalar => ?_)⟩
      rcases (Utf8.exists_encode_iff _).mpr scalar with ⟨octets, encoded⟩
      exact nomatch unencodable.symm.trans encoded
  | unpublished publishes refused =>
      unfold publishedSecret at refused
      rw [Store.runIn_createSecret_memory] at refused
      split at refused
      · cases refused
      · cases refused

variable {result : Except Failure Volume} {parameters : ClusterParameters}
  {connection : Connection}

/-- Once the cluster is known, an attempt that cannot tell the agent about it ends there. -/
theorem ProvisionCourse.fault_of_untold
    (course : ProvisionCourse provisioner .memory claim world result after)
    (admits : claim.Admits parameters)
    (connected : (Action.runIn world (Store.memory.connect parameters)).1 = .ok connection)
    (cannot : ¬provisioner.CanTell connection) :
    (∃ fault, result = .error (.unexpected fault))
      ∧ after.calls = world.calls ++ [.readSecret parameters.secret] := by
  have unlaunched {other : ClusterParameters} {otherConnection : Connection}
      {invocation : Agent.Invocation}
      (launches : Launches provisioner .memory claim world other otherConnection invocation) :
      False := by
    cases admits.resolved.symm.trans launches.admits.resolved
    cases connected.symm.trans launches.connected
    exact cannot launches.canTell
  cases course with
  | selectorGiven given => exact absurd (.inl given) admits.not_refused
  | parametersRefused unselective refused => exact absurd (.inr ⟨_, refused⟩) admits.not_refused
  | unconnected others refused =>
      cases admits.resolved.symm.trans others.resolved
      exact nomatch connected.symm.trans refused
  | unlaunched others otherConnected refused =>
      cases admits.resolved.symm.trans others.resolved
      exact ⟨⟨_, rfl⟩, by simp [Store.readingSecret]⟩
  | agentFailed launches failed => exact (unlaunched launches).elim
  | recordRefused launches printed refused => exact (unlaunched launches).elim
  | pathRefused launches reports refused => exact (unlaunched launches).elim
  | keyUnencodable launches reports located unencodable => exact (unlaunched launches).elim
  | unpublished publishes refused => exact (unlaunched publishes.toLaunches).elim
  | published publishes written free => exact (unlaunched publishes.toLaunches).elim

/-- Once the agent has reported a share, an attempt that cannot encode its key ends there. -/
theorem ProvisionCourse.fault_of_unwritten {invocation : Agent.Invocation}
    {record : Agent.Record} {exportPath : Text}
    (course : ProvisionCourse provisioner .memory claim world result after)
    (launches : Launches provisioner .memory claim world parameters connection invocation)
    (reports : world.nextOutcome.Reports record)
    (located : Agent.exportPath record.path = .ok exportPath)
    (unscalar : record.key.isScalar = false) :
    (∃ fault, result = .error (.unexpected fault))
      ∧ after.calls = world.calls ++ [.readSecret parameters.secret, .agent invocation] := by
  have unpublished {other : ClusterParameters} {otherConnection : Connection}
      {otherInvocation : Agent.Invocation} {otherRecord : Agent.Record} {otherPath : Text}
      {key : Octets} (publishes : Publishes provisioner .memory claim world other
        otherConnection otherInvocation otherRecord otherPath key) : False := by
    cases reports.eq publishes.reports
    exact nomatch unscalar.symm.trans ((Utf8.exists_encode_iff _).mp ⟨_, publishes.encoded⟩)
  cases course with
  | selectorGiven given => exact absurd (.inl given) launches.admits.not_refused
  | parametersRefused unselective refused =>
      exact absurd (.inr ⟨_, refused⟩) launches.admits.not_refused
  | unconnected others refused =>
      cases launches.admits.resolved.symm.trans others.resolved
      exact nomatch launches.connected.symm.trans refused
  | unlaunched others connected refused =>
      cases launches.admits.resolved.symm.trans others.resolved
      cases launches.connected.symm.trans connected
      exact nomatch launches.invoked.symm.trans refused
  | agentFailed others failed =>
      rcases reports with ⟨standardOutput, standardError, exited, _⟩
      exact absurd ⟨standardOutput, standardError, exited⟩
        (Agent.Outcome.not_succeeds_of_error failed)
  | recordRefused others printed refused =>
      exact nomatch (reports.parse_output printed).symm.trans refused
  | pathRefused others otherReports refused =>
      cases reports.eq otherReports
      exact nomatch located.symm.trans refused
  | keyUnencodable others otherReports otherLocated unencodable =>
      rcases launches.eq others with ⟨rfl, rfl, rfl⟩
      exact ⟨⟨_, rfl⟩, by simp [Store.readingSecret]⟩
  | unpublished publishes refused => exact (unpublished publishes).elim
  | published publishes written free => exact (unpublished publishes).elim

theorem ProvisionCourse.fault_of_faulty {made : List Call}
    (course : ProvisionCourse provisioner .memory claim world result after)
    (faulty : Faulty provisioner claim world made) :
    (∃ fault, result = .error (.unexpected fault)) ∧ after.calls = world.calls ++ made := by
  cases faulty with
  | untold admits connected cannot => exact course.fault_of_untold admits connected cannot
  | unwritten launches reports located unscalar =>
      exact course.fault_of_unwritten launches reports located unscalar

end Course

/-- An attempt with secrets in memory ends in a fault just in these two ways, having made just
these calls; every other attempt ends with a volume or with a declared failure. -/
theorem provision_faults_iff (provisioner : Provisioner) (claim : Claim) (world : World) :
    let outcome := Action.runIn world (provisioner.provision .memory claim)
    let faults := ∃ fault, outcome.1 = .error (.unexpected fault)
    (faults ↔ ∃ made, Faulty provisioner claim world made)
      ∧ ∀ made, faults ∧ outcome.2.calls = world.calls ++ made
        ↔ Faulty provisioner claim world made := by
  intro outcome faults
  have course := provision_course provisioner .memory claim world
  have explained : faults → ∃ made, outcome.2.calls = world.calls ++ made
      ∧ Faulty provisioner claim world made := by
    rintro ⟨fault, failed⟩
    exact (failed ▸ course).faulty
  refine ⟨⟨fun failed => ?_, fun ⟨made, faulty⟩ => (course.fault_of_faulty faulty).1⟩,
    fun made => ⟨?_, course.fault_of_faulty⟩⟩
  · rcases explained failed with ⟨made, _, faulty⟩
    exact ⟨made, faulty⟩
  · rintro ⟨failed, calls⟩
    rcases explained failed with ⟨other, otherCalls, faulty⟩
    cases List.append_cancel_left (calls.symm.trans otherCalls)
    exact faulty

/-- A run of the agent that reports a key with a lone surrogate. -/
def surrogateWorld : World :=
  { Run.sampleWorld with
    runs := [.exited 0 (Utf8.ofString
      "\x7b\"path\":\"/s\",\"user\":\"u\",\"auth\":\"\\ud800\"\x7d") []] }

/-- The agent has created a share, and the attempt ends in a fault. -/
theorem surrogate_key_faults :
    let provisioner : Provisioner := { identity := "one" }
    let outcome := Action.runIn surrogateWorld
      (provisioner.provision .memory Run.sampleClaim)
    outcome.1 = .error (.unexpected (.unencodable ⟨0, [0]⟩))
      ∧ outcome.2.calls.map (·.invocation?.isSome) = [false, true] := by
  decide +kernel

end Provisioner

end ShareProvisioner
