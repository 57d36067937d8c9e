import ShareProvisioner.Proofs.Lifecycle.Creation
import ShareProvisioner.Proofs.Parameters
import ShareProvisioner.Proofs.Provisioner.Published

/-!
# Deletion reverses provisioning

The manifest of a volume leads back to all that is needed to destroy the share behind
it: the stamp to the share, the class to the cluster and its administrator.  Only a claim
without a class leaves no way back.
-/

namespace ShareProvisioner

/-- Whether a class in memory leads to parameters and a key that can be handed to the
agent. -/
structure Memory.Reaches (memory : Memory) (className : Text) (given : Mapping)
    (parameters : ClusterParameters) (key : Text) : Prop where
  found : memory.classes.find? className = some given
  plain : given.HoldsPlainTexts
  resolved : Parameters.resolve given = .ok parameters
  holds : ∃ data, memory.secret? parameters.secret = some data
    ∧ data.key parameters.secret = .ok key
  keyPlain : key.IsPlain

section Reaching

variable {world : World} {className : Text} {given : Mapping} {parameters : ClusterParameters}
  {key : Text}

theorem Memory.Reaches.connected {memory : Memory}
    (reaches : memory.Reaches className given parameters key) (same : world.memory = memory) :
    (Action.runIn world (Store.memory.connect parameters)).1 = .ok (parameters.connection key) := by
  subst same
  rcases reaches.holds with ⟨data, kept, holds⟩
  exact Store.connect_eq_ok_iff.mpr
    ⟨data, key, Store.runIn_readSecret_memory.mpr kept, holds, rfl⟩

/-- A volume of one's own whose class can be reached comes to be destroyed. -/
theorem Memory.Reaches.destroys {provisioner : Provisioner} {volume : Volume} {share user : Text}
    (reaches : world.memory.Reaches className given parameters key)
    (stamped : volume.IsStamped provisioner.identity share)
    (isClass : volume.className = .text className) (nonempty : className ≠ [])
    (isUser : volume.grantedUser = .text user) (named : user ≠ [])
    (passable : ∀ word ∈ [provisioner.agentPath, share, user], word.IsPassable) :
    ∃ invocation, provisioner.Destroys .memory volume world parameters
      (parameters.connection key) invocation := by
  have resolvedPlain := Parameters.resolve_isPlain reaches.plain reaches.resolved
  rcases resolvedPlain.cluster with ⟨cluster, isCluster, clusterPlain⟩
  rcases resolvedPlain.adminId with ⟨adminId, isAdmin, adminPlain⟩
  have monitorsPlain : (Text.join "," parameters.monitors).IsPlain :=
    Text.IsPlain.join (by decide) resolvedPlain.monitors
  have words : ∀ word ∈ provisioner.agentPath :: Agent.words .destroy share user,
      word.IsPassable := by
    have options : ∀ option ∈ [("-r" : Text), "-n", "-u"], option.IsPassable := by decide
    simp only [Agent.words, List.forall_mem_cons] at passable options ⊢
    exact ⟨passable.1, options.1, options.2.1, passable.2.1, options.2.2.1, passable.2.2.1, by simp⟩
  have settings : ∀ setting ∈ [cluster, Text.join "," parameters.monitors, adminId, key],
      setting.IsPassable := by
    simp [clusterPlain.isPassable, monitorsPlain.isPassable, adminPlain.isPassable,
      reaches.keyPlain.isPassable]
  rcases @Agent.exists_invocation _ share user _ _ (parameters.connection key) .destroy isCluster
    isAdmin words settings with ⟨invocation, invoked⟩
  refine ⟨invocation, ⟨⟨⟨?_, ?_, ?_⟩, ?_⟩, ?_, ?_⟩⟩
  · exact Ownership.verify_of_isStamped stamped
  · simpa [isUser] using named
  · simpa [isClass] using nonempty
  · exact ⟨_, by rw [isClass]; exact Store.runIn_readClass_memory reaches.found,
      reaches.resolved⟩
  · exact reaches.connected rfl
  · rw [stamped.share, isUser]
    exact invoked

end Reaching

namespace Run

/-- Whether a report is on a deletion that ran the agent to destroy a share, and that the
outcome of that run decided. -/
structure Destroyed (now : Run) (report : Report) (className : Text) (secret : SecretReference)
    (path share user : Text) (connection : Connection) (invocation : Agent.Invocation) :
    Prop where
  calls : report.calls = [.readClass (.text className), .readSecret secret, .agent invocation]
  arguments : invocation.arguments = path :: Agent.words .destroy share user
  environment : connection.environment = invocation.environmentValues
  deleted : report.result = .deletion .deleted ↔ now.world.nextOutcome.Succeeds
  failed : ¬now.world.nextOutcome.Succeeds →
    ∃ failure output, report.result = .failed (.declared (.agentFailed failure output))

variable {run now : Run} {provisioner : Provisioner} {volume : Volume} {className : Text}
  {given : Mapping} {parameters : ClusterParameters} {key : Text}

theorem destroyed_of_destroys {invocation : Agent.Invocation} {share user : Text}
    (inMemory : now.store = .memory)
    (destroys : provisioner.Destroys .memory volume now.world.quiet parameters
      (parameters.connection key) invocation)
    (stamped : volume.IsStamped provisioner.identity share)
    (isClass : volume.className = .text className) (isUser : volume.grantedUser = .text user) :
    Destroyed now
      ⟨StepResult.ofOutcome .deletion
          (Action.runIn now.world.quiet (provisioner.delete now.store volume)).1,
        (Action.runIn now.world.quiet (provisioner.delete now.store volume)).2.calls⟩
      className parameters.secret provisioner.agentPath share user (parameters.connection key)
      invocation := by
  rw [inMemory]
  have course := Provisioner.delete_course provisioner .memory volume now.world.quiet
  generalize (Action.runIn now.world.quiet (provisioner.delete .memory volume)).1 = result
    at course ⊢
  generalize (Action.runIn now.world.quiet (provisioner.delete .memory volume)).2 = after
    at course ⊢
  rcases course.of_destroys destroys with ⟨rfl, ended⟩
  have invoked := destroys.invoked
  rw [stamped.share, isUser] at invoked
  refine ⟨?_, Agent.arguments_of_invocation invoked,
    (Agent.invocation_eq_ok_iff.mp invoked).2.1, ?_, ?_⟩
  · rw [World.destroyed_calls, isClass]
    rfl
  · rcases ended with ⟨rfl, succeeds⟩ | ⟨failure, output, rfl, fails⟩
    · exact ⟨fun _ => succeeds, fun _ => rfl⟩
    · exact ⟨nofun, fun succeeds => absurd succeeds fails⟩
  · intro fails
    rcases ended with ⟨rfl, succeeds⟩ | ⟨failure, output, rfl, _⟩
    · exact absurd succeeds fails
    · exact ⟨failure, output, rfl⟩

theorem presented?_of_returned {steps : List Step} {made actor : Nat} {claim : Claim} {step : Step}
    (fresh : run.volumes = []) (returned : run.Returned steps made actor claim volume)
    (hands : step ∈ [Step.delete actor volume.manifestMembers, .deleteMade actor made {}]) :
    (run.after steps).presented? step = some (actor, volume.manifestMembers) := by
  have found := (lookup_volumes_iff fresh).mpr ⟨actor, claim, returned⟩
  simp only [List.mem_cons, List.not_mem_nil, or_false] at hands
  rcases hands with rfl | rfl
  · rfl
  · rw [presented?, found]
    rfl

theorem connection_eq_of_unchanged {store : Store} {claim : Claim} {before world : World}
    {connection : Connection} {created : ClusterParameters} {creation : Agent.Invocation}
    (inMemory : store = .memory)
    (launches : provisioner.Launches store claim before created connection creation)
    (reaches : world.memory.Reaches className given parameters key)
    (agrees : given.Agrees (.ofTexts claim.parameters))
    (unchanged : world.memory.secret? parameters.secret
      = before.memory.secret? parameters.secret) :
    connection = parameters.connection key := by
  subst inMemory
  cases Parameters.resolve_congr agrees reaches.resolved launches.admits.resolved
  rcases Store.connect_eq_ok_iff.mp launches.connected with ⟨data, other, read, holds, rfl⟩
  rcases reaches.holds with ⟨kept, isKept, otherHolds⟩
  rw [unchanged, Store.runIn_readSecret_memory.mp read] at isKept
  cases isKept
  cases holds.symm.trans otherHolds
  rfl

section Handed

variable {claim : Claim} {monitors : List Text} {share secret exportPath user : Text}
  {actor number : Nat} {step : Step} (acts : now.provisioners[actor]? = some provisioner)
  (presents : now.presented? step = some (actor,
    (provisioner.volumeFor claim monitors share secret exportPath user).manifestMembers))
  (named : claim.volumeName ≠ []) (userNamed : user ≠ [])

include acts presents named userNamed

theorem destroyed_of_reaches (inMemory : now.store = .memory)
    (isClass : claim.storageClass = some className) (nonempty : className ≠ [])
    (reaches : now.world.memory.Reaches className given parameters key)
    (passable : ∀ word ∈ [provisioner.agentPath, share, user], word.IsPassable) :
    ∃ invocation, Destroyed now (now.perform number step).1 className parameters.secret
      provisioner.agentPath share user (parameters.connection key) invocation := by
  rw [report_of_presented now number presents acts (Provisioner.ofManifest_volumeFor named)]
  have stamped := (@Provisioner.volumeFor_isStamped provisioner claim monitors share secret
    exportPath user).reread
  have classRead := @Provisioner.className_reread_of_class provisioner claim monitors share secret
    exportPath user className isClass nonempty
  rcases @Memory.Reaches.destroys now.world.quiet _ _ _ _ _ _ _ user reaches stamped classRead
    nonempty rfl userNamed passable with ⟨invocation, destroys⟩
  exact ⟨invocation, destroyed_of_destroys inMemory destroys stamped classRead rfl⟩

theorem classMissing_of_classless
    (classless : claim.storageClass = none ∨ claim.storageClass = some []) :
    (now.perform number step).1.result
      = .failed (.declared (.classMissing (.text claim.volumeName))) := by
  rw [report_of_presented now number presents acts (Provisioner.ofManifest_volumeFor named)]
  have course := Provisioner.delete_course provisioner now.store
    (provisioner.volumeFor claim monitors share secret exportPath user).reread now.world.quiet
  have owned := Ownership.verify_of_isStamped (@Provisioner.volumeFor_isStamped provisioner claim
    monitors share secret exportPath user)
  have userRead : (Json.text user).isTruthy = true := by simpa using userNamed
  have classRead := @Provisioner.className_reread_of_classless provisioner claim monitors share
    secret exportPath user classless
  have refused := course.of_classless owned userRead (by rw [classRead]; rfl)
  dsimp only
  rw [refused]
  rfl

end Handed

/-- Deleting a volume destroys just the share that was created for it, with the volume's
user and for the cluster that the claim's class now leads to.  If neither that class nor
its secret has changed, the agent is run just as it was to create the share.  The volume
for a claim without a class cannot be deleted. -/
theorem deletion_reverses_provision (descriptions : List Description) (world : World)
    (steps : List Step) :
    let run := Run.start .memory descriptions world
    let now := run.after steps
    ∀ made actor claim volume creation share created,
      run.Returned steps made actor claim volume → claim.volumeName ≠ [] →
      run.Ran steps made actor creation → creation.Creates share created →
      ∀ step ∈ [Step.delete actor volume.manifestMembers, .deleteMade actor made {}],
        (∀ className given parameters key user, claim.storageClass = some className →
          className ≠ [] → now.world.memory.Reaches className given parameters key →
          volume.grantedUser = .text user → user.IsPlain →
          ∃ provisioner invocation, run.provisioners[actor]? = some provisioner
            ∧ Destroyed now (now.perform steps.length step).1 className parameters.secret
              provisioner.agentPath share user (parameters.connection key) invocation
            ∧ (given.Agrees (.ofTexts claim.parameters) →
              now.world.memory.secret? parameters.secret
                = (run.after (steps.take made)).world.memory.secret? parameters.secret →
              invocation.environment = creation.environment))
        ∧ (claim.storageClass = none ∨ claim.storageClass = some [] →
          (now.perform steps.length step).1.result
            = .failed (.declared (.classMissing (.text claim.volumeName)))) := by
  intro run now made actor claim volume creation share created returned named ran creates step
    hands
  have presents := presented?_of_returned rfl returned hands
  rcases returned.created ran creates with
    ⟨provisioner, resolved, connection, secret, exportPath, granted, acts, launches, userNamed,
      rfl⟩
  have actsNow : now.provisioners[actor]? = some provisioner := by
    rwa [after_provisioners]
  constructor
  · intro className given parameters key user isClass nonempty reaches isUser userPlain
    cases isUser
    have handed := launches.isPassable creates
    have passable : ∀ word ∈ [provisioner.agentPath, share, granted], word.IsPassable := by
      simp only [List.forall_mem_cons]
      exact ⟨handed.1, handed.2, userPlain.isPassable, by simp⟩
    rcases destroyed_of_reaches actsNow presents named userNamed (after_store run steps) isClass
      nonempty reaches passable with ⟨invocation, destroyed⟩
    refine ⟨provisioner, invocation, acts, destroyed, fun agrees unchanged => ?_⟩
    have same := connection_eq_of_unchanged rfl launches reaches agrees unchanged
    have environment := (Agent.invocation_eq_ok_iff.mp launches.invoked).2.1
    rw [same, destroyed.environment] at environment
    exact Agent.Invocation.environment_eq_of_values environment
  · exact classMissing_of_classless actsNow presents named userNamed

def sampleVolume : Volume :=
  ({ identity := "one" } : Provisioner).volumeFor sampleClaim ["m"] sampleWorld.nextShare
    (Provisioner.secretName sampleWorld.nextUser) "/s" "u"

def sampleCreation : Agent.Invocation where
  arguments := Agent.defaultPath :: Agent.words .create sampleWorld.nextShare sampleWorld.nextUser
  environment := [("CLUSTER_NAME", "ceph"), ("MONITORS", "m"), ("AUTH_ID", "admin"),
    ("AUTH_KEY", "k")]

def sampleParameters : ClusterParameters where
  cluster := .text "ceph"
  adminId := .text "admin"
  monitors := ["m"]
  secret := ⟨.text "default", .text "admin"⟩

theorem sample_reaches : (sample.after [.provision 0 sampleClaim]).world.memory.Reaches "fast"
    (.ofTexts sampleClaim.parameters) sampleParameters "k" where
  found := by decide +kernel
  plain := by
    have entries : Mapping.ofTexts sampleClaim.parameters = [(.text "monitors", .text "m"),
      (.text "adminSecretName", .text "admin")] := by decide +kernel
    rw [entries]
    intro entry member
    simp only [List.mem_cons, List.not_mem_nil, or_false] at member
    rcases member with rfl | rfl
    · exact ⟨_, _, rfl, by decide⟩
    · exact ⟨_, _, rfl, by decide⟩
  resolved := rfl
  holds := ⟨[("key", .octets [107])], by decide +kernel, rfl⟩
  keyPlain := by decide

theorem deletion_reverses_provision_sample :
    let steps := [Step.provision 0 sampleClaim]
    let now := sample.after steps
    sample.Returned steps 0 0 sampleClaim sampleVolume ∧ sampleClaim.volumeName ≠ []
      ∧ sample.Ran steps 0 0 sampleCreation
      ∧ sampleCreation.Creates sampleWorld.nextShare sampleWorld.nextUser
      ∧ now.world.memory.Reaches "fast" (.ofTexts sampleClaim.parameters) sampleParameters "k"
      ∧ ∃ provisioner invocation, sample.provisioners[0]? = some provisioner
        ∧ Destroyed now (now.perform 1 (.deleteMade 0 0 {})).1 "fast" sampleParameters.secret
          provisioner.agentPath sampleWorld.nextShare "u" (sampleParameters.connection "k")
          invocation
        ∧ invocation.environment = sampleCreation.environment := by
  have returned : sample.Returned [.provision 0 sampleClaim] 0 0 sampleClaim sampleVolume := by
    decide +kernel
  have ran : sample.Ran [.provision 0 sampleClaim] 0 0 sampleCreation := by decide +kernel
  have creates : sampleCreation.Creates sampleWorld.nextShare sampleWorld.nextUser := ⟨_, rfl⟩
  rcases (deletion_reverses_provision _ sampleWorld [.provision 0 sampleClaim] 0 0 sampleClaim
      sampleVolume sampleCreation _ _ returned (by decide) ran creates (.deleteMade 0 0 {})
      (by simp)).1 "fast" _ _ _ "u" rfl (by decide) sample_reaches rfl (by decide) with
    ⟨provisioner, invocation, acts, destroyed, same⟩
  exact ⟨returned, by decide, ran, creates, sample_reaches, provisioner, invocation, acts,
    destroyed, same (fun _ => rfl) (by decide +kernel)⟩

end Run

end ShareProvisioner
