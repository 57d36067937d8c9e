import ShareProvisioner.Proofs.Lifecycle.Script

/-!
# Runs that go on alike

Two runs whose steps are counted in different ways, and which differ otherwise only in the
calls made so far and in volumes that no step asks for, report the same on the same steps.
-/

namespace ShareProvisioner

open ShareProvisioner.Action

theorem World.quiet_eq_iff {world other : World} :
    other.quiet = world.quiet
      ↔ other.memory = world.memory ∧ other.responses = world.responses
        ∧ other.runs = world.runs ∧ other.nextId = world.nextId := by
  simp [World.quiet]

/-- The step that a step refers to. -/
def Step.made? : Step → Option Nat
  | deleteMade _ made _ => some made
  | _ => none

/-- The step with another number for the step that it refers to. -/
def Step.renumbered (renumber : Nat → Nat) : Step → Step
  | deleteMade actor made edit => deleteMade actor (renumber made) edit
  | step => step

namespace Run

/-- Whether a run is where another one is, apart from the calls made so far, when its steps
are counted in another way and volumes of lost steps do not matter. -/
structure Tracks (renumber : Nat → Nat) (lost : Nat → Prop) (run other : Run) : Prop where
  store : other.store = run.store
  provisioners : other.provisioners = run.provisioners
  world : other.world.quiet = run.world.quiet
  volumes : ∀ made, ¬lost made →
    other.volumes.lookup (renumber made) = run.volumes.lookup made

namespace Tracks

variable {renumber : Nat → Nat} {lost : Nat → Prop} {run other : Run}

theorem memory_eq (tracks : Tracks renumber lost run other) :
    other.world.memory = run.world.memory :=
  (World.quiet_eq_iff.mp tracks.world).1

theorem byActor_eq {α : Type} (tracks : Tracks renumber lost run other) (actor : Nat)
    (action : Provisioner → Action α) : other.byActor actor action = run.byActor actor action := by
  unfold byActor
  rw [tracks.provisioners]

theorem deleteObject_eq (tracks : Tracks renumber lost run other) (actor : Nat)
    (manifest : List (Text × Json)) :
    other.deleteObject actor manifest = run.deleteObject actor manifest := by
  unfold deleteObject
  rw [tracks.byActor_eq, tracks.store]

theorem of_world (tracks : Tracks renumber lost run other) {world otherWorld : World}
    (same : otherWorld.quiet = world.quiet) :
    Tracks renumber lost { run with world } { other with world := otherWorld } :=
  ⟨tracks.store, tracks.provisioners, same, tracks.volumes⟩

theorem act {α : Type} (tracks : Tracks renumber lost run other) (action : Action α)
    (result : α → StepResult) :
    (other.act action result).1 = (run.act action result).1
      ∧ Tracks renumber lost (run.act action result).2 (other.act action result).2 := by
  rw [act_eq, act_eq, tracks.world]
  exact ⟨rfl, tracks.of_world rfl⟩

theorem changeMemory (tracks : Tracks renumber lost run other) (result : StepResult)
    (change : Memory → Memory) :
    (other.changeMemory result change).1 = (run.changeMemory result change).1
      ∧ Tracks renumber lost (run.changeMemory result change).2
        (other.changeMemory result change).2 := by
  refine ⟨rfl, tracks.of_world ?_⟩
  rw [tracks.memory_eq]
  exact congrArg (fun world : World => { world with memory := change run.world.memory })
    tracks.world

theorem keeping {acted otherActed : Report × Run} (same : otherActed.1 = acted.1)
    (tracks : Tracks renumber lost acted.2 otherActed.2) {number otherNumber : Nat}
    (counted : ∀ made, ¬lost made → (renumber made = otherNumber ↔ made = number)) :
    (Run.keeping otherNumber otherActed).1 = (Run.keeping number acted).1
      ∧ Tracks renumber lost (Run.keeping number acted).2
        (Run.keeping otherNumber otherActed).2 := by
  rcases acted with ⟨⟨result, calls⟩, run⟩
  rcases otherActed with ⟨report, other⟩
  cases same
  cases result with
  | volume volume =>
      refine ⟨rfl, tracks.store, tracks.provisioners, tracks.world, fun made known => ?_⟩
      by_cases isNumber : made = number
      · have isOther := (counted made known).mpr isNumber
        subst isNumber
        simp [Run.keeping, isOther]
      · have notOther := mt (counted made known).mp isNumber
        simpa [Run.keeping, List.lookup_cons, beq_eq_false_iff_ne.mpr isNumber,
          beq_eq_false_iff_ne.mpr notOther] using tracks.volumes made known
  | _ => exact ⟨rfl, tracks⟩

/-- What tracks a run before a step tracks it afterwards, with the same report. -/
theorem perform (tracks : Tracks renumber lost run other) {number otherNumber : Nat} (step : Step)
    (known : ∀ made ∈ step.made?, ¬lost made)
    (counted : ∀ made, ¬lost made → (renumber made = otherNumber ↔ made = number)) :
    (other.perform otherNumber (step.renumbered renumber)).1 = (run.perform number step).1
      ∧ Tracks renumber lost (run.perform number step).2
        (other.perform otherNumber (step.renumbered renumber)).2 := by
  cases step with
  | provision actor claim =>
      simp only [Step.renumbered]
      rw [perform_provision_eq, perform_provision_eq, tracks.byActor_eq, tracks.store]
      rcases tracks.act (run.byActor actor (·.provision run.store claim)) .volume with
        ⟨same, acted⟩
      exact keeping same acted counted
  | delete actor manifest =>
      simp only [Step.renumbered]
      rw [Run.perform, Run.perform, tracks.deleteObject_eq]
      exact tracks.act _ _
  | deleteMade actor made edit =>
      have found := tracks.volumes made (known made rfl)
      simp only [Step.renumbered]
      cases isMade : run.volumes.lookup made with
      | none =>
          rw [perform_of_unmade number actor edit isMade,
            perform_of_unmade otherNumber actor edit (found.trans isMade)]
          exact ⟨rfl, tracks⟩
      | some volume =>
          rw [perform_of_made number actor edit isMade,
            perform_of_made otherNumber actor edit (found.trans isMade), tracks.deleteObject_eq]
          exact tracks.act _ _
  | identify actor =>
      simp only [Step.renumbered]
      rw [Run.perform, Run.perform, tracks.byActor_eq]
      exact tracks.act _ _
  | putSecret namespaceName name data => exact tracks.changeMemory _ _
  | dropSecret namespaceName name =>
      simp only [Step.renumbered]
      rw [Run.perform, Run.perform, tracks.memory_eq]
      exact tracks.changeMemory _ _
  | putClass name parameters => exact tracks.changeMemory _ _
  | dropClass name =>
      simp only [Step.renumbered]
      rw [Run.perform, Run.perform, tracks.memory_eq]
      exact tracks.changeMemory _ _

theorem performAll (tracks : Tracks renumber lost run other) (steps : List Step)
    (known : ∀ step ∈ steps, ∀ made ∈ step.made?, ¬lost made) {number otherNumber : Nat}
    (counted : ∀ later made, ¬lost made →
      (renumber made = otherNumber + later ↔ made = number + later)) :
    (other.performAll otherNumber (steps.map (·.renumbered renumber))).1
        = (run.performAll number steps).1
      ∧ Tracks renumber lost (run.performAll number steps).2
        (other.performAll otherNumber (steps.map (·.renumbered renumber))).2 := by
  induction steps generalizing run other number otherNumber with
  | nil => exact ⟨rfl, tracks⟩
  | cons step steps induction =>
      rw [List.map_cons, performAll_cons, performAll_cons]
      have countedFirst : ∀ made, ¬lost made → (renumber made = otherNumber ↔ made = number) :=
        counted 0
      rcases tracks.perform step (known step List.mem_cons_self) countedFirst with
        ⟨same, performed⟩
      have countedNext (later made : Nat) (isKnown : ¬lost made) :
          renumber made = otherNumber + 1 + later ↔ made = number + 1 + later := by
        rw [Nat.add_assoc, Nat.add_assoc]
        exact counted (1 + later) made isKnown
      rcases induction performed (fun step member => known step (List.mem_cons_of_mem _ member))
        countedNext with ⟨sameRest, rest⟩
      rw [same, sameRest]
      exact ⟨rfl, rest⟩

end Tracks

/-! ## Counting alike -/

variable {run : Run}

theorem renumbered_id (step : Step) : step.renumbered id = step := by
  cases step <;> rfl

/-- Whether a run is where another one is, apart from the calls made so far. -/
abbrev Matches : Run → Run → Prop :=
  Tracks id fun _ => False

theorem Matches.perform {other : Run} (matched : Matches run other) (number : Nat) (step : Step) :
    (other.perform number step).1 = (run.perform number step).1
      ∧ Matches (run.perform number step).2 (other.perform number step).2 := by
  have performed := @Tracks.perform _ _ _ _ matched number number step
    (fun _ _ => not_false) fun _ _ => Iff.rfl
  rwa [renumbered_id] at performed

theorem Matches.performAll {other : Run} (matched : Matches run other) (number : Nat)
    (steps : List Step) :
    (other.performAll number steps).1 = (run.performAll number steps).1
      ∧ Matches (run.performAll number steps).2 (other.performAll number steps).2 := by
  have performed := @Tracks.performAll _ _ _ _ matched steps
    (fun _ _ _ _ => not_false) number number fun _ _ _ => Iff.rfl
  rwa [List.map_congr_left fun step _ => renumbered_id step, List.map_id'] at performed

end Run

end ShareProvisioner
