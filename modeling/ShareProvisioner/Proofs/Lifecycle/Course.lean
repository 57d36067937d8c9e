import ShareProvisioner.Lifecycle
import ShareProvisioner.Proofs.Provisioner.Delete
import ShareProvisioner.Proofs.Provisioner.Provision

/-!
# The course of a step

The rules of `StepCourse` list all that a single step of a lifecycle can do.  What holds
of every step is read off them, without looking at how a step is performed.
-/

namespace ShareProvisioner

def World.quiet (world : World) : World :=
  { world with calls := [] }

@[simp] theorem World.quiet_calls (world : World) : world.quiet.calls = [] := rfl

@[simp] theorem World.quiet_memory (world : World) : world.quiet.memory = world.memory := rfl

@[simp] theorem World.quiet_nextId (world : World) : world.quiet.nextId = world.nextId := rfl

def Step.actor? : Step → Option Nat
  | provision actor _ | delete actor _ | deleteMade actor _ _ | identify actor => some actor
  | putSecret .. | dropSecret .. | putClass .. | dropClass .. => none

def StepResult.ofOutcome {α : Type} (result : α → StepResult) : Except Failure α → StepResult
  | .ok value => result value
  | .error failure => .failed failure

namespace Run

/-- The object that a step hands over for deletion, and to whom. -/
def presented? (run : Run) : Step → Option (Nat × List (Text × Json))
  | .delete actor manifest => some (actor, manifest)
  | .deleteMade actor made edit =>
      (run.volumes.lookup made).map fun volume => (actor, (edit.apply volume).manifestMembers)
  | _ => none

theorem actor?_of_presented {run : Run} {actor : Nat} {step : Step}
    {manifest : List (Text × Json)}
    (presents : run.presented? step = some (actor, manifest)) : step.actor? = some actor := by
  unfold presented? at presents
  split at presents
  · cases presents
    rfl
  · rcases Option.map_eq_some_iff.mp presents with ⟨volume, _, equal⟩
    cases equal
    rfl
  · cases presents

/-- What a step does: the report on it, and the run afterwards. -/
inductive StepCourse (run : Run) (number : Nat) : Step → Report → Run → Prop
  | strange {step actor} (asked : step.actor? = some actor)
      (strange : run.provisioners[actor]? = none) :
      StepCourse run number step ⟨.failed (.unexpected .noProvisioner), []⟩
        { run with world := run.world.quiet }
  | unmade {actor made edit} (unmade : run.volumes.lookup made = none) :
      StepCourse run number (.deleteMade actor made edit) ⟨.noVolume, []⟩ run
  | provisioned {actor claim provisioner volume world}
      (acts : run.provisioners[actor]? = some provisioner)
      (course : provisioner.ProvisionCourse run.store claim run.world.quiet (.ok volume) world) :
      StepCourse run number (.provision actor claim) ⟨.volume volume, world.calls⟩
        { run with world, volumes := (number, volume) :: run.volumes }
  | unprovisioned {actor claim provisioner failure world}
      (acts : run.provisioners[actor]? = some provisioner)
      (course : provisioner.ProvisionCourse run.store claim run.world.quiet (.error failure)
        world) :
      StepCourse run number (.provision actor claim) ⟨.failed failure, world.calls⟩
        { run with world }
  | unread {step actor manifest provisioner failure}
      (presents : run.presented? step = some (actor, manifest))
      (acts : run.provisioners[actor]? = some provisioner)
      (unread : Volume.ofManifest manifest = .error failure) :
      StepCourse run number step ⟨.failed failure, []⟩ { run with world := run.world.quiet }
  | attempted {step actor manifest provisioner volume result world}
      (presents : run.presented? step = some (actor, manifest))
      (acts : run.provisioners[actor]? = some provisioner)
      (read : Volume.ofManifest manifest = .ok volume)
      (course : provisioner.DeleteCourse run.store volume run.world.quiet result world) :
      StepCourse run number step ⟨StepResult.ofOutcome .deletion result, world.calls⟩
        { run with world }
  | identified {actor provisioner} (acts : run.provisioners[actor]? = some provisioner) :
      StepCourse run number (.identify actor) ⟨.provisioner provisioner, []⟩
        { run with world := run.world.quiet }
  | secretPut {namespaceName name data} :
      StepCourse run number (.putSecret namespaceName name data) ⟨.stored, []⟩
        { run with world :=
          { run.world with memory := run.world.memory.withSecret namespaceName name data } }
  | secretDropped {namespaceName name present} :
      StepCourse run number (.dropSecret namespaceName name) ⟨.dropped present, []⟩
        { run with world :=
          { run.world with memory := run.world.memory.withoutSecret namespaceName name } }
  | classPut {name parameters} :
      StepCourse run number (.putClass name parameters) ⟨.stored, []⟩
        { run with world :=
          { run.world with memory := run.world.memory.withClass name parameters } }
  | classDropped {name present} :
      StepCourse run number (.dropClass name) ⟨.dropped present, []⟩
        { run with world := { run.world with memory := run.world.memory.withoutClass name } }

variable {run : Run} {number actor : Nat}

/-! ## Acting -/

theorem act_eq {α : Type} (run : Run) (action : Action α) (result : α → StepResult) :
    run.act action result
      = (⟨StepResult.ofOutcome result (Action.runIn run.world.quiet action).1,
          (Action.runIn run.world.quiet action).2.calls⟩,
        { run with world := (Action.runIn run.world.quiet action).2 }) := rfl

theorem byActor_of_acts {α : Type} {provisioner : Provisioner} (action : Provisioner → Action α)
    (acts : run.provisioners[actor]? = some provisioner) :
    run.byActor actor action = action provisioner := by
  unfold byActor
  rw [acts]

theorem byActor_of_strange {α : Type} (action : Provisioner → Action α)
    (strange : run.provisioners[actor]? = none) :
    run.byActor actor action = throw (.unexpected .noProvisioner) := by
  unfold byActor
  rw [strange]

theorem perform_of_presented (run : Run) (number : Nat) {step : Step}
    {manifest : List (Text × Json)} (presents : run.presented? step = some (actor, manifest)) :
    run.perform number step = run.act (run.deleteObject actor manifest) .deletion := by
  cases step with
  | delete actor manifest =>
      cases presents
      rfl
  | deleteMade actor made edit =>
      rcases Option.map_eq_some_iff.mp presents with ⟨volume, found, equal⟩
      cases equal
      rw [perform, found]
  | _ => cases presents

theorem report_of_presented (run : Run) (number : Nat) {step : Step}
    {manifest : List (Text × Json)} {provisioner : Provisioner} {volume : Volume}
    (presents : run.presented? step = some (actor, manifest))
    (acts : run.provisioners[actor]? = some provisioner)
    (read : Volume.ofManifest manifest = .ok volume) :
    (run.perform number step).1
      = ⟨StepResult.ofOutcome .deletion
          (Action.runIn run.world.quiet (provisioner.delete run.store volume)).1,
        (Action.runIn run.world.quiet (provisioner.delete run.store volume)).2.calls⟩ := by
  rw [perform_of_presented run number presents, act_eq, deleteObject, byActor_of_acts _ acts,
    read, Action.runIn_bind_ok (Action.runIn_lift _)]

theorem perform_provision (run : Run) (number : Nat) (claim : Claim) {provisioner : Provisioner}
    (acts : run.provisioners[actor]? = some provisioner) :
    let outcome := Action.runIn run.world.quiet (provisioner.provision run.store claim)
    (run.perform number (.provision actor claim)).1
        = ⟨StepResult.ofOutcome .volume outcome.1, outcome.2.calls⟩
      ∧ (run.perform number (.provision actor claim)).2.world = outcome.2 := by
  intro outcome
  rw [perform, act_eq, byActor_of_acts _ acts]
  -- Only whether the volume is kept depends on the result.
  dsimp only [outcome]
  cases (Action.runIn run.world.quiet (provisioner.provision run.store claim)).1 with
  | error failure => exact ⟨rfl, rfl⟩
  | ok volume => exact ⟨rfl, rfl⟩

private theorem provision_step_course (claim : Claim) :
    StepCourse run number (.provision actor claim) (run.perform number (.provision actor claim)).1
      (run.perform number (.provision actor claim)).2 := by
  rw [perform]
  rw [act_eq]
  cases acts : run.provisioners[actor]? with
  | none =>
      rw [byActor_of_strange _ acts]
      exact .strange rfl acts
  | some provisioner =>
      rw [byActor_of_acts _ acts]
      have course := Provisioner.provision_course provisioner run.store claim run.world.quiet
      cases result : (Action.runIn run.world.quiet (provisioner.provision run.store claim)).1 with
      | error failure =>
          rw [result] at course
          exact .unprovisioned acts course
      | ok volume =>
          rw [result] at course
          exact .provisioned acts course

private theorem deletion_step_course {step : Step} {manifest : List (Text × Json)}
    (presents : run.presented? step = some (actor, manifest)) :
    StepCourse run number step (run.perform number step).1 (run.perform number step).2 := by
  rw [perform_of_presented run number presents, act_eq]
  unfold deleteObject
  cases acts : run.provisioners[actor]? with
  | none =>
      rw [byActor_of_strange _ acts]
      exact .strange (actor?_of_presented presents) acts
  | some provisioner =>
      rw [byActor_of_acts _ acts]
      cases read : Volume.ofManifest manifest with
      | error failure =>
          rw [Action.runIn_bind_error (Action.runIn_lift _)]
          exact .unread presents acts read
      | ok volume =>
          rw [Action.runIn_bind_ok (Action.runIn_lift _)]
          exact .attempted presents acts read (Provisioner.delete_course ..)

/-- Whatever the step, it goes by the rules. -/
theorem perform_course (run : Run) (number : Nat) (step : Step) :
    StepCourse run number step (run.perform number step).1 (run.perform number step).2 := by
  cases step with
  | provision actor claim => exact provision_step_course claim
  | delete actor manifest => exact deletion_step_course rfl
  | deleteMade actor made edit =>
      cases found : run.volumes.lookup made with
      | none =>
          rw [perform, found]
          exact .unmade found
      | some volume => exact deletion_step_course (by rw [presented?, found, Option.map_some])
  | identify actor =>
      rw [perform]
      rw [act_eq]
      cases acts : run.provisioners[actor]? with
      | none =>
          rw [byActor_of_strange _ acts]
          exact .strange rfl acts
      | some provisioner =>
          rw [byActor_of_acts _ acts]
          exact .identified acts
  | putSecret namespaceName name data => exact .secretPut
  | dropSecret namespaceName name => exact .secretDropped
  | putClass name parameters => exact .classPut
  | dropClass name => exact .classDropped

/-! ## What every step does -/

namespace StepCourse

variable {step : Step} {report : Report} {after : Run}

theorem store_eq (course : StepCourse run number step report after) :
    after.store = run.store := by
  cases course <;> rfl

theorem provisioners_eq (course : StepCourse run number step report after) :
    after.provisioners = run.provisioners := by
  cases course <;> rfl

theorem nextId_le (course : StepCourse run number step report after) :
    run.world.nextId ≤ after.world.nextId := by
  cases course with
  | provisioned acts course | unprovisioned acts course => exact course.nextId_le
  | attempted presents acts read course => exact course.nextId_eq.ge
  | _ => exact Nat.le_refl _

theorem volumes_eq (course : StepCourse run number step report after) :
    (∃ volume, report.result = .volume volume ∧ after.volumes = (number, volume) :: run.volumes)
      ∨ (∀ volume, report.result ≠ .volume volume) ∧ after.volumes = run.volumes := by
  cases course with
  | provisioned acts course => exact .inl ⟨_, rfl, rfl⟩
  | attempted presents acts read course =>
      refine .inr ⟨fun volume => ?_, rfl⟩
      cases course <;> simp [StepResult.ofOutcome]
  | _ => exact .inr ⟨nofun, rfl⟩

theorem course_of_volume {volume : Volume} (course : StepCourse run number step report after)
    (returned : report.result = .volume volume) :
    ∃ actor claim provisioner, step = .provision actor claim
      ∧ run.provisioners[actor]? = some provisioner
      ∧ provisioner.ProvisionCourse run.store claim run.world.quiet (.ok volume) after.world
      ∧ report.calls = after.world.calls := by
  cases course with
  | provisioned acts course =>
      cases returned
      exact ⟨_, _, _, rfl, acts, course, rfl⟩
  | attempted presents acts read course =>
      cases course <;> simp [StepResult.ofOutcome] at returned
  | _ => cases returned

/-- The agent is run to create a share for a claim, or else to destroy the share behind a
volume that has been handed over. -/
theorem launches_of_call {invocation : Agent.Invocation}
    (course : StepCourse run number step report after)
    (called : .agent invocation ∈ report.calls) :
    (∃ actor claim provisioner parameters connection, step = .provision actor claim
        ∧ run.provisioners[actor]? = some provisioner
        ∧ provisioner.Launches run.store claim run.world.quiet parameters connection invocation
        ∧ after.world.nextId = run.world.nextId + 2)
      ∨ ∃ actor manifest provisioner volume parameters connection,
        run.presented? step = some (actor, manifest)
        ∧ run.provisioners[actor]? = some provisioner
        ∧ Volume.ofManifest manifest = .ok volume
        ∧ provisioner.Destroys run.store volume run.world.quiet parameters connection
          invocation := by
  cases course with
  | provisioned acts course | unprovisioned acts course =>
      rcases course.launches_of_call rfl called with ⟨⟨parameters, connection, launches⟩, taken⟩
      exact .inl ⟨_, _, _, parameters, connection, rfl, acts, launches, taken⟩
  | attempted presents acts read course =>
      rcases course.destroys_of_call rfl called with ⟨parameters, connection, destroys⟩
      exact .inr ⟨_, _, _, _, parameters, connection, presents, acts, read, destroys⟩
  | _ => cases called

end StepCourse

end Run

end ShareProvisioner
