import ShareProvisioner.Proofs.Lifecycle.History
import ShareProvisioner.Proofs.Provisioner.Script

/-!
# Lifecycles follow a script

A step of a lifecycle uses up as many outcomes of the agent as it runs the agent, and so
does a sequence of steps; what they report depends on no other outcomes.
-/

namespace ShareProvisioner

open ShareProvisioner.Action

namespace Run

/-- The run in which the runs of the agent are to end as given. -/
def rescripted (run : Run) (runs : List Agent.Outcome) : Run :=
  { run with world := run.world.rescripted runs }

/-- How often the steps with the given reports ran the agent. -/
def launches (reports : List Report) : Nat :=
  Call.launches (reports.flatMap Report.calls)

theorem launches_cons (report : Report) (reports : List Report) :
    launches (report :: reports) = Call.launches report.calls + launches reports := by
  rw [launches, List.flatMap_cons, Call.launches_append, launches]

/-- What becomes of a run in which a claim has been satisfied: the volume is kept. -/
def keeping (number : Nat) : Report × Run → Report × Run
  | (⟨.volume volume, calls⟩, run) =>
      (⟨.volume volume, calls⟩, { run with volumes := (number, volume) :: run.volumes })
  | acted => acted

theorem keeping_report (number : Nat) (acted : Report × Run) :
    (keeping number acted).1 = acted.1 := by
  rcases acted with ⟨⟨result, calls⟩, run⟩
  cases result <;> rfl

theorem keeping_rescripted (number : Nat) (acted : Report × Run) (runs : List Agent.Outcome) :
    keeping number (acted.1, acted.2.rescripted runs)
      = (acted.1, (keeping number acted).2.rescripted runs) := by
  rcases acted with ⟨⟨result, calls⟩, run⟩
  cases result <;> rfl

theorem perform_provision_eq (run : Run) (number actor : Nat) (claim : Claim) :
    run.perform number (.provision actor claim)
      = keeping number (run.act (run.byActor actor (·.provision run.store claim)) .volume) := by
  rw [perform]
  generalize run.act (run.byActor actor (·.provision run.store claim)) .volume = acted
  rcases acted with ⟨⟨result, calls⟩, after⟩
  cases result <;> rfl

theorem perform_of_unmade {run : Run} {made : Nat} (number actor : Nat) (edit : Edit)
    (unmade : run.volumes.lookup made = none) :
    run.perform number (.deleteMade actor made edit) = (⟨.noVolume, []⟩, run) := by
  rw [perform, unmade]

theorem perform_of_made {run : Run} {made : Nat} {volume : Volume} (number actor : Nat)
    (edit : Edit) (isMade : run.volumes.lookup made = some volume) :
    run.perform number (.deleteMade actor made edit)
      = run.act (run.deleteObject actor (edit.apply volume).manifestMembers) .deletion := by
  rw [perform, isMade]

/-! ## Following a script -/

section Script

variable {run : Run}

theorem act_rescripted {α : Type} {action : Action α} (follows : Follows action)
    (result : α → StepResult) {runs : List Agent.Outcome}
    (agrees : ∀ index < Call.launches (run.act action result).1.calls,
      Agent.outcomeAt runs index = Agent.outcomeAt run.world.runs index) :
    (run.rescripted runs).act action result
      = ((run.act action result).1, (run.act action result).2.rescripted
          (runs.drop (Call.launches (run.act action result).1.calls))) := by
  rcases follows run.world.quiet with ⟨used, launched, same⟩
  rw [World.quiet_calls] at launched
  have counted : Call.launches (run.act action result).1.calls = used := by
    rw [act_eq]
    exact launched.trans (Nat.zero_add used)
  rw [counted] at agrees ⊢
  have rerun : runIn (run.rescripted runs).world.quiet action
      = ((runIn run.world.quiet action).1,
        (runIn run.world.quiet action).2.rescripted (runs.drop used)) := same runs agrees
  rw [act_eq, act_eq, rerun]
  rfl

theorem follows_byActor {α : Type} (run : Run) (actor : Nat) {action : Provisioner → Action α}
    (follows : ∀ provisioner, Follows (action provisioner)) :
    Follows (run.byActor actor action) := by
  unfold byActor
  split
  · exact follows _
  · exact .of_idle (fun _ => rfl) fun _ _ => rfl

theorem follows_deleteObject (inMemory : run.store = .memory) (actor : Nat)
    (manifest : List (Text × Json)) : Follows (run.deleteObject actor manifest) :=
  run.follows_byActor actor fun provisioner => .bind (.lift _) fun volume => by
    rw [inMemory]
    exact provisioner.follows_delete volume

/-- A step uses up as many outcomes as it runs the agent, and the others stay. -/
theorem perform_rescripted (inMemory : run.store = .memory) (number : Nat) (step : Step)
    {runs : List Agent.Outcome}
    (agrees : ∀ index < Call.launches (run.perform number step).1.calls,
      Agent.outcomeAt runs index = Agent.outcomeAt run.world.runs index) :
    (run.rescripted runs).perform number step
      = ((run.perform number step).1, (run.perform number step).2.rescripted
          (runs.drop (Call.launches (run.perform number step).1.calls))) := by
  cases step with
  | provision actor claim =>
      have follows : Follows (run.byActor actor (·.provision run.store claim)) :=
        run.follows_byActor actor fun provisioner => by
          rw [inMemory]
          exact provisioner.follows_provision claim
      rw [perform_provision_eq run, keeping_report] at agrees ⊢
      rw [perform_provision_eq, ← keeping_rescripted]
      exact congrArg (keeping number) (act_rescripted follows .volume agrees)
  | delete actor manifest =>
      exact act_rescripted (follows_deleteObject inMemory actor manifest) .deletion agrees
  | deleteMade actor made edit =>
      cases found : run.volumes.lookup made with
      | none =>
          rw [perform_of_unmade number actor edit found]
          exact @perform_of_unmade (run.rescripted runs) _ number actor edit found
      | some volume =>
          rw [perform_of_made number actor edit found] at agrees ⊢
          refine (@perform_of_made (run.rescripted runs) _ _ number actor edit found).trans ?_
          exact act_rescripted (follows_deleteObject inMemory actor _) .deletion agrees
  | identify actor => exact act_rescripted (run.follows_byActor actor .pure) .provisioner agrees
  | putSecret | dropSecret | putClass | dropClass => rfl

theorem runs_of_perform (inMemory : run.store = .memory) (number : Nat) (step : Step) :
    (run.perform number step).2.world.runs
      = run.world.runs.drop (Call.launches (run.perform number step).1.calls) := by
  have own : run.perform number step = _ :=
    @perform_rescripted run inMemory number step run.world.runs fun _ _ => rfl
  exact congrArg (fun performed => performed.2.world.runs) own

theorem performAll_rescripted (inMemory : run.store = .memory) (number : Nat)
    (steps : List Step) {runs : List Agent.Outcome}
    (agrees : ∀ index < launches (run.performAll number steps).1,
      Agent.outcomeAt runs index = Agent.outcomeAt run.world.runs index) :
    (run.rescripted runs).performAll number steps
      = ((run.performAll number steps).1, (run.performAll number steps).2.rescripted
          (runs.drop (launches (run.performAll number steps).1))) := by
  induction steps generalizing run number runs with
  | nil => rfl
  | cons step steps induction =>
      rw [performAll_cons run, launches_cons] at agrees ⊢
      have stays : (run.perform number step).2.store = .memory :=
        (perform_course run number step).store_eq.trans inMemory
      have performed := perform_rescripted inMemory number step fun index small =>
        agrees index (by omega)
      have rest := @induction (run.perform number step).2 stays (number + 1)
        (runs.drop (Call.launches (run.perform number step).1.calls)) fun index small => by
          rw [runs_of_perform inMemory, Agent.outcomeAt_drop, Agent.outcomeAt_drop]
          exact agrees _ (by omega)
      rw [performAll_cons, performed, rest, List.drop_drop]

theorem runs_of_performAll (inMemory : run.store = .memory) (number : Nat) (steps : List Step) :
    (run.performAll number steps).2.world.runs
      = run.world.runs.drop (launches (run.performAll number steps).1) := by
  have own : run.performAll number steps = _ :=
    @performAll_rescripted run inMemory number steps run.world.runs fun _ _ => rfl
  exact congrArg (fun performed => performed.2.world.runs) own

end Script

/-! ## Starting -/

theorem make_rescripted (identity name agentPath : Option Text) (world : World)
    (runs : List Agent.Outcome) :
    runIn (world.rescripted runs) (Provisioner.make identity name agentPath)
      = ((runIn world (Provisioner.make identity name agentPath)).1,
        (runIn world (Provisioner.make identity name agentPath)).2.rescripted runs) := by
  rcases identity with _ | ⟨_ | ⟨first, rest⟩⟩
  · rfl
  · rfl
  · rfl

theorem makeProvisioners_rescripted (world : World) (descriptions : List Description)
    (runs : List Agent.Outcome) :
    makeProvisioners (world.rescripted runs) descriptions
      = ((makeProvisioners world descriptions).1,
        (makeProvisioners world descriptions).2.rescripted runs) := by
  induction descriptions generalizing world with
  | nil => rfl
  | cons description rest induction =>
      unfold makeProvisioners
      rw [make_rescripted]
      generalize runIn world (Provisioner.make description.identity description.name
        description.agentPath) = made
      rcases made with ⟨result, after⟩
      cases result with
      | error failure => exact induction after
      | ok provisioner =>
          dsimp only
          rw [induction after]

/-- The provisioners are made without any regard to the script. -/
theorem start_rescripted (store : Store) (descriptions : List Description) (world : World)
    (runs : List Agent.Outcome) :
    start store descriptions (world.rescripted runs)
      = (start store descriptions world).rescripted runs := by
  unfold start
  rw [makeProvisioners_rescripted]
  rfl

theorem runs_of_start (store : Store) (descriptions : List Description) (world : World) :
    (start store descriptions world).world.runs = world.runs := by
  have own : start store descriptions world = _ :=
    start_rescripted store descriptions world world.runs
  exact congrArg (fun run => run.world.runs) own

end Run

end ShareProvisioner
