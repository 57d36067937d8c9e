import ShareProvisioner.Proofs.Lifecycle.History
import ShareProvisioner.Proofs.Provisioner.Names

/-!
# Shares of a lifecycle

Every share that a lifecycle creates is named after identifiers that were not taken
before, so a share belongs to the one step that created it.
-/

namespace ShareProvisioner

open Agent (Invocation)

section Attempts

variable {provisioner : Provisioner} {store : Store} {claim : Claim} {world : World}
  {parameters : ClusterParameters} {connection : Connection}
  {invocation : Invocation}

theorem Provisioner.Launches.isPassable {share user : Text}
    (launches : provisioner.Launches store claim world parameters connection invocation)
    (creates : invocation.Creates share user) :
    provisioner.agentPath.IsPassable ∧ share.IsPassable := by
  have passable := (Agent.invocation_eq_ok_iff.mp launches.invoked).1.2
  rw [Agent.arguments_of_invocation launches.invoked] at passable
  rw [(creates.target_eq launches.creates).1]
  exact ⟨passable _ (by simp), passable _ (by simp [Agent.words])⟩

end Attempts

namespace Run

variable {run : Run} {steps : List Step} {number actor : Nat}

/-! ## Creating -/

theorem Ran.launches {creation : Invocation} {share user : Text}
    (ran : run.Ran steps number actor creation) (creates : creation.Creates share user) :
    ∃ claim provisioner parameters connection, steps[number]? = some (.provision actor claim)
      ∧ run.provisioners[actor]? = some provisioner
      ∧ provisioner.Launches run.store claim (run.after (steps.take number)).world.quiet
        parameters connection creation
      ∧ (run.after (steps.take (number + 1))).world.nextId
        = (run.after (steps.take number)).world.nextId + 2 := by
  rcases ran with ⟨⟨step, report⟩, happened, asked, called⟩
  have course := course_of_history happened
  have is := (getElem?_history.mp happened).1
  rw [← after_store run (steps.take number), ← after_provisioners run (steps.take number)]
  rcases course.launches_of_call called with
    ⟨actor, claim, provisioner, parameters, connection, rfl, acts, launches, taken⟩
      | ⟨_, _, _, _, _, _, _, _, _, destroys⟩
  · cases asked
    exact ⟨claim, provisioner, parameters, connection, is, acts, launches, taken⟩
  · rcases destroys.texts with ⟨_, _, _, _, destroyed⟩
    exact absurd destroyed creates.not_destroys

/-- A share is created by one step only. -/
theorem Ran.number_eq {other otherActor : Nat} {creation otherCreation : Invocation}
    {share user otherUser : Text}
    (ran : run.Ran steps number actor creation) (creates : creation.Creates share user)
    (otherRan : run.Ran steps other otherActor otherCreation)
    (otherCreates : otherCreation.Creates share otherUser) :
    number = other ∧ actor = otherActor := by
  rcases ran.launches creates with ⟨claim, _, _, _, is, _, launches, taken⟩
  rcases otherRan.launches otherCreates with ⟨otherClaim, _, _, _, otherIs, _, otherLaunches,
    otherTaken⟩
  have shareName := (creates.target_eq launches.creates).1
  have otherName := (otherCreates.target_eq otherLaunches.creates).1
  have identifiers : (run.after (steps.take number)).world.nextId
      = (run.after (steps.take other)).world.nextId :=
    Action.identifierText_injective (List.append_cancel_left (shareName.symm.trans otherName))
  -- Had one of the steps come first, its identifiers would be taken before the other.
  have same : number = other := by
    have later {first last : Nat} (before : first < last) :
        (run.after (steps.take (first + 1))).world.nextId
          ≤ (run.after (steps.take last)).world.nextId := nextId_after_take_mono run steps before
    rcases Nat.lt_trichotomy number other with before | same | after
    · have increases := later before
      omega
    · exact same
    · have increases := later after
      omega
  subst same
  cases is.symm.trans otherIs
  exact ⟨rfl, rfl⟩

/-- A step creates at most one share. -/
theorem Ran.creation_eq {creation otherCreation : Invocation}
    {share user otherShare otherUser : Text}
    (ran : run.Ran steps number actor creation) (creates : creation.Creates share user)
    (otherRan : run.Ran steps number actor otherCreation)
    (otherCreates : otherCreation.Creates otherShare otherUser) : creation = otherCreation := by
  rcases ran.launches creates with ⟨claim, provisioner, _, _, is, acts, launches, _⟩
  rcases otherRan.launches otherCreates with ⟨_, _, _, _, otherIs, otherActs, otherLaunches, _⟩
  cases is.symm.trans otherIs
  cases acts.symm.trans otherActs
  exact (launches.eq otherLaunches).2.2

theorem Returned.published {claim : Claim} {volume : Volume}
    (returned : run.Returned steps number actor claim volume) :
    ∃ provisioner parameters connection creation record exportPath key,
      run.provisioners[actor]? = some provisioner
      ∧ provisioner.Publishes run.store claim (run.after (steps.take number)).world.quiet
        parameters connection creation record exportPath key
      ∧ volume = provisioner.volumeFor claim connection.monitors
        (run.after (steps.take number)).world.nextShare
        (Provisioner.secretName (run.after (steps.take number)).world.nextUser) exportPath
        record.user
      ∧ run.Ran steps number actor creation := by
  rcases returned with ⟨⟨step, report⟩, happened, isProvision, returned⟩
  have course := course_of_history happened
  rw [← after_store run (steps.take number), ← after_provisioners run (steps.take number)]
  rcases course.course_of_volume returned with ⟨_, _, provisioner, equal, acts, course, made⟩
  cases equal.symm.trans isProvision
  rcases course.publishes with ⟨parameters, connection, creation, record, exportPath, key,
    publishes, rfl, called, _⟩
  exact ⟨provisioner, parameters, connection, creation, record, exportPath, key, acts, publishes,
    rfl, _, happened, equal ▸ rfl, made ▸ called⟩

/-- The volume of a step is the one for the share that the step created. -/
theorem Returned.created {claim : Claim} {volume : Volume} {creation : Invocation}
    {share created : Text} (returned : run.Returned steps number actor claim volume)
    (ran : run.Ran steps number actor creation) (creates : creation.Creates share created) :
    ∃ provisioner parameters connection secret exportPath user,
      run.provisioners[actor]? = some provisioner
      ∧ provisioner.Launches run.store claim (run.after (steps.take number)).world.quiet
        parameters connection creation
      ∧ user ≠ []
      ∧ volume = provisioner.volumeFor claim connection.monitors share secret exportPath user := by
  rcases returned.published with
    ⟨provisioner, parameters, connection, other, record, exportPath, key, acts, publishes, rfl,
      otherRan⟩
  cases ran.creation_eq creates otherRan publishes.creates
  cases (creates.target_eq publishes.creates).1
  rcases publishes.reports with ⟨_, _, _, parsed⟩
  exact ⟨provisioner, parameters, connection, _, exportPath, record.user, acts,
    publishes.toLaunches, (Agent.Record.parse_isComplete parsed).user, rfl⟩

/-! ## Destroying -/

theorem Ran.destroys {invocation : Invocation} {share user : Text}
    (ran : run.Ran steps number actor invocation) (destroys : invocation.Destroys share user) :
    ∃ step manifest provisioner volume, steps[number]? = some step
      ∧ (run.after (steps.take number)).presented? step = some (actor, manifest)
      ∧ run.provisioners[actor]? = some provisioner
      ∧ Volume.ofManifest manifest = .ok volume
      ∧ provisioner.Seeks volume
      ∧ volume.shareName = .text share ∧ volume.grantedUser = .text user := by
  rcases ran with ⟨⟨step, report⟩, happened, asked, called⟩
  have course := course_of_history happened
  have is := (getElem?_history.mp happened).1
  rw [← after_provisioners run (steps.take number)]
  rcases course.launches_of_call called with
    ⟨_, _, _, _, _, _, _, launches, _⟩
      | ⟨other, manifest, provisioner, volume, _, _, presents, acts, read, attempt⟩
  · exact absurd destroys launches.creates.not_destroys
  · cases asked.symm.trans (actor?_of_presented presents)
    rcases attempt.texts with ⟨_, _, isShare, isUser, destroyed⟩
    rcases destroys.target_eq destroyed with ⟨rfl, rfl⟩
    exact ⟨step, manifest, provisioner, volume, is, presents, acts, read, attempt.toSeeks,
      isShare, isUser⟩

end Run

end ShareProvisioner
