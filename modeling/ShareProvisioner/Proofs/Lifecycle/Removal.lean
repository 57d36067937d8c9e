import ShareProvisioner.Proofs.Lifecycle.Tracking

/-!
# Steps without a trace

A deletion leaves nothing behind in memory, takes no identifier and makes no volume; and so
it is with a claim that is turned away before the agent is run.  A lifecycle from which such
a step is taken out, together with the outcome of the agent that it used, goes on as before.
-/

namespace ShareProvisioner

open ShareProvisioner.Action

/-! ## Steps that leave no trace -/

/-- Whether a claim is turned away before the agent is run: for its selector, for its
parameters or for the secret that they name. -/
inductive Claim.IsTurnedAway (claim : Claim) (store : Store) (world : World) : Prop
  | selector (given : claim.selector.isSome)
  | parameters {failure} (refused : Parameters.resolve (.ofTexts claim.parameters) = .error failure)
  | secret {parameters failure} (admits : claim.Admits parameters)
      (refused : (runIn world (store.connect parameters)).1 = .error failure)

theorem Claim.IsTurnedAway.not_connected {claim : Claim} {store : Store} {world : World}
    {parameters : ClusterParameters} {connection : Connection}
    (turnedAway : claim.IsTurnedAway store world) (admits : claim.Admits parameters)
    (connected : (runIn world (store.connect parameters)).1 = .ok connection) : False := by
  cases turnedAway with
  | selector given => exact admits.not_refused (.inl given)
  | parameters refused => exact admits.not_refused (.inr ⟨_, refused⟩)
  | secret others refused =>
      cases admits.resolved.symm.trans others.resolved
      exact nomatch connected.symm.trans refused

def Step.isDeletion : Step → Bool
  | delete .. | deleteMade .. => true
  | _ => false

namespace Provisioner

theorem DeleteCourse.responses_eq {provisioner : Provisioner} {volume : Volume}
    {world after : World} {result : Except Failure Deletion}
    (course : DeleteCourse provisioner .memory volume world result after) :
    after.responses = world.responses := by
  cases course <;> rfl

namespace ProvisionCourse

variable {provisioner : Provisioner} {claim : Claim} {world after : World}
  {result : Except Failure Volume}

/-- A claim is turned away, and the world stays as it was but for the calls; or else the
claim takes two identifiers, even if the agent cannot be run. -/
theorem turnedAway_or_named (course : ProvisionCourse provisioner .memory claim world result after) :
    (claim.IsTurnedAway .memory world ∧ (∃ failure, result = .error failure)
        ∧ after.quiet = world.quiet)
      ∨ (¬claim.IsTurnedAway .memory world ∧ after.nextId = world.nextId + 2) := by
  have launched {parameters : ClusterParameters} {connection : Connection}
      {invocation : Agent.Invocation}
      (launches : Launches provisioner .memory claim world parameters connection invocation) :
      ¬claim.IsTurnedAway .memory world :=
    fun turnedAway => turnedAway.not_connected launches.admits launches.connected
  cases course with
  | selectorGiven given => exact .inl ⟨.selector given, ⟨_, rfl⟩, rfl⟩
  | parametersRefused unselective refused => exact .inl ⟨.parameters refused, ⟨_, rfl⟩, rfl⟩
  | unconnected admits refused => exact .inl ⟨.secret admits refused, ⟨_, rfl⟩, rfl⟩
  | unlaunched admits connected refused =>
      exact .inr ⟨fun turnedAway => turnedAway.not_connected admits connected, rfl⟩
  | agentFailed launches failed => exact .inr ⟨launched launches, rfl⟩
  | recordRefused launches printed refused => exact .inr ⟨launched launches, rfl⟩
  | pathRefused launches reports refused => exact .inr ⟨launched launches, rfl⟩
  | keyUnencodable launches reports located unencodable => exact .inr ⟨launched launches, rfl⟩
  | unpublished publishes refused => exact .inr ⟨launched publishes.toLaunches, rfl⟩
  | published publishes written free => exact .inr ⟨launched publishes.toLaunches, rfl⟩

theorem quiet_of_turnedAway (course : ProvisionCourse provisioner .memory claim world result after)
    (turnedAway : claim.IsTurnedAway .memory world) :
    (∃ failure, result = .error failure) ∧ after.quiet = world.quiet := by
  rcases course.turnedAway_or_named with ⟨_, unchanged⟩ | ⟨admitted, _⟩
  · exact unchanged
  · exact absurd turnedAway admitted

end ProvisionCourse

end Provisioner

namespace Run

/-- Whether a step is a deletion or a claim that is turned away. -/
inductive Passing (run : Run) : Step → Prop
  | deletion {step : Step} (isDeletion : step.isDeletion = true) : Passing run step
  | turnedAway {actor : Nat} {claim : Claim}
      (turnedAway : claim.IsTurnedAway run.store run.world.quiet) :
      Passing run (.provision actor claim)

section Passing

variable {run : Run}

/-- A passing step makes no volume and changes nothing in the world but the script. -/
theorem Passing.unchanged {step : Step} {report : Report} {after : Run} {number : Nat}
    (passing : run.Passing step) (inMemory : run.store = .memory)
    (course : StepCourse run number step report after) :
    after.volumes = run.volumes ∧ after.world.memory = run.world.memory
      ∧ after.world.responses = run.world.responses
      ∧ after.world.nextId = run.world.nextId := by
  cases course with
  | strange asked strange => exact ⟨rfl, rfl, rfl, rfl⟩
  | unmade unmade => exact ⟨rfl, rfl, rfl, rfl⟩
  | unread presents acts unread => exact ⟨rfl, rfl, rfl, rfl⟩
  | attempted presents acts read course =>
      rw [inMemory] at course
      exact ⟨rfl, course.memory_eq, course.responses_eq, course.nextId_eq⟩
  | provisioned acts course =>
      cases passing with
      | deletion isDeletion => cases isDeletion
      | turnedAway turnedAway =>
          rw [inMemory] at course turnedAway
          rcases course.quiet_of_turnedAway turnedAway with ⟨⟨failure, failed⟩, _⟩
          cases failed
  | unprovisioned acts course =>
      cases passing with
      | deletion isDeletion => cases isDeletion
      | turnedAway turnedAway =>
          rw [inMemory] at course turnedAway
          have same := (course.quiet_of_turnedAway turnedAway).2
          rcases World.quiet_eq_iff.mp same with ⟨memory, responses, _, nextId⟩
          exact ⟨rfl, memory, responses, nextId⟩
  | _ =>
      cases passing with
      | deletion isDeletion => cases isDeletion

/-- After a passing step a run is where it was before, under the same script. -/
theorem Passing.tracks {step : Step} (passing : run.Passing step) (inMemory : run.store = .memory)
    (number : Nat) {renumber : Nat → Nat} {lost : Nat → Prop} (runs : List Agent.Outcome)
    (volumes : ∀ made, ¬lost made →
      run.volumes.lookup (renumber made) = run.volumes.lookup made) :
    Tracks renumber lost ((run.perform number step).2.rescripted runs) (run.rescripted runs) := by
  have course := perform_course run number step
  rcases passing.unchanged inMemory course with ⟨sameVolumes, memory, responses, nextId⟩
  refine ⟨course.store_eq.symm, course.provisioners_eq.symm, ?_, fun made known => ?_⟩
  · exact World.quiet_eq_iff.mpr ⟨memory.symm, responses.symm, rfl, nextId.symm⟩
  · exact (volumes made known).trans (congrArg (List.lookup made) sameVolumes).symm

/-! ## Taking a step out -/

/-- How steps are counted once the step of the given number has been taken out. -/
def closing (number made : Nat) : Nat :=
  if number < made then made - 1 else made

theorem closing_eq_iff {number made : Nat} (later : Nat) (other : made ≠ number) :
    closing number made = number + later ↔ made = number + 1 + later := by
  unfold closing
  split <;> omega

/-- Without a passing step, the steps behind it go on as they do with it. -/
theorem Passing.performAll {step : Step} (passing : run.Passing step)
    (inMemory : run.store = .memory) {number : Nat}
    (unmade : ∀ made, number ≤ made → run.volumes.lookup made = none) {steps : List Step}
    (unreferred : ∀ later ∈ steps, later.made? ≠ some number) :
    let left := (run.perform number step).2
    let whole := left.performAll (number + 1) steps
    let shorter := (run.rescripted left.world.runs).performAll number
      (steps.map (·.renumbered (closing number)))
    shorter.1 = whole.1 ∧ shorter.2.world.memory = whole.2.world.memory := by
  intro left whole shorter
  have volumes (made : Nat) (other : made ≠ number) :
      run.volumes.lookup (closing number made) = run.volumes.lookup made := by
    unfold closing
    split
    · rw [unmade made (by omega), unmade (made - 1) (by omega)]
    · rfl
  have tracks : Tracks (closing number) (· = number) left (run.rescripted left.world.runs) :=
    passing.tracks inMemory number left.world.runs volumes
  rcases tracks.performAll steps
      (fun later member made isMade same => unreferred later member (same ▸ isMade))
      (fun later made other => closing_eq_iff later other) with ⟨reports, ended⟩
  exact ⟨reports, ended.memory_eq⟩

/-! ## Swapping two deletions -/

theorem perform_deletion (run : Run) {step : Step} (isDeletion : step.isDeletion = true)
    (number other : Nat) : run.perform number step = run.perform other step := by
  cases step with
  | delete | deleteMade => rfl
  | _ => cases isDeletion

theorem matches_perform {step : Step} (isDeletion : step.isDeletion = true)
    (inMemory : run.store = .memory) (number : Nat) (runs : List Agent.Outcome) :
    Matches ((run.perform number step).2.rescripted runs) (run.rescripted runs) :=
  (Passing.deletion isDeletion).tracks inMemory number runs fun _ _ => rfl

/-- Two deletions in the other order report the same under the swapped script, and they
lead to the same. -/
theorem perform_swapped {first second : Step} (firstDeletes : first.isDeletion = true)
    (secondDeletes : second.isDeletion = true) (inMemory : run.store = .memory) (number : Nat) :
    let one := run.perform number first
    let two := one.2.perform (number + 1) second
    let swapped := run.rescripted (Agent.swapNext run.world.runs (Call.launches one.1.calls)
      (Call.launches two.1.calls))
    let earlier := swapped.perform number second
    let later := earlier.2.perform (number + 1) first
    earlier.1 = two.1 ∧ later.1 = one.1
      ∧ ∃ common, Matches two.2 common ∧ Matches later.2 common := by
  intro one two swapped earlier later
  have inMemoryNext : one.2.store = .memory :=
    (perform_course run number first).store_eq.trans inMemory
  have left : one.2.world.runs = run.world.runs.drop (Call.launches one.1.calls) :=
    runs_of_perform inMemory number first
  have leftNext : two.2.world.runs
      = run.world.runs.drop (Call.launches one.1.calls + Call.launches two.1.calls) := by
    rw [runs_of_perform inMemoryNext, left, List.drop_drop]
  let without := run.rescripted one.2.world.runs
  let rest := Agent.outcomesFrom run.world.runs 0 (Call.launches one.1.calls) ++ two.2.world.runs
  -- The second deletion reports the same without the first one before it, ...
  have alone : (without.perform number second).1 = two.1 :=
    ((matches_perform firstDeletes inMemory number one.2.world.runs).perform number second).1.trans
      (congrArg Prod.fst (one.2.perform_deletion secondDeletes number (number + 1)))
  -- ... also when the outcomes of the first one come behind its own.
  have isEarlier : earlier = (two.1, (without.perform number second).2.rescripted rest) := by
    have agrees := @perform_rescripted without inMemory number second
      (Agent.swapNext run.world.runs (Call.launches one.1.calls) (Call.launches two.1.calls))
    rw [alone, Agent.drop_swapNext, ← leftNext] at agrees
    refine agrees fun index small => ?_
    rw [Agent.outcomeAt_swapNext _ _ small, ← left]
    rfl
  -- So the first one finds what it found without the second one before it.
  have isLater : later
      = ((without.perform number second).2.rescripted rest).perform number first := by
    unfold later
    rw [isEarlier]
    exact perform_deletion _ firstDeletes _ _
  have again : (run.rescripted rest).perform number first
      = (one.1, one.2.rescripted two.2.world.runs) := by
    have agrees := @perform_rescripted run inMemory number first rest fun index small => by
      rw [Agent.outcomeAt_outcomesFrom_append _ _ _ _ small, Nat.zero_add]
    rwa [Agent.drop_outcomesFrom_append] at agrees
  have behind : ((run.rescripted rest).perform number first).1 = later.1
      ∧ Matches later.2 ((run.rescripted rest).perform number first).2 := by
    rw [isLater]
    exact (@matches_perform without second secondDeletes inMemory number rest).perform number first
  rw [again] at behind
  refine ⟨by rw [isEarlier], behind.1.symm, one.2.rescripted two.2.world.runs, ?_, behind.2⟩
  exact matches_perform secondDeletes inMemoryNext (number + 1) two.2.world.runs

end Passing

/-! ## What comes of a lifecycle -/

/-- The reports on the steps, and what is in memory after them. -/
def ending (run : Run) (steps : List Step) : List Report × Memory :=
  ((run.performAll 0 steps).1, (run.after steps).world.memory)

section Ending

variable {run : Run} {before : List Step}

theorem ending_append (run : Run) (before rest : List Step) :
    run.ending (before ++ rest)
      = ((run.performAll 0 before).1 ++ ((run.after before).performAll before.length rest).1,
        ((run.after before).performAll before.length rest).2.world.memory) := by
  unfold ending after
  rw [performAll_append, Nat.zero_add]

theorem ending_rescripted (inMemory : run.store = .memory) {runs : List Agent.Outcome}
    (agrees : ∀ index < launches (run.performAll 0 before).1,
      Agent.outcomeAt runs index = Agent.outcomeAt run.world.runs index) (rest : List Step) :
    let now := (run.after before).rescripted (runs.drop (launches (run.performAll 0 before).1))
    (run.rescripted runs).ending (before ++ rest)
      = ((run.performAll 0 before).1 ++ (now.performAll before.length rest).1,
        (now.performAll before.length rest).2.world.memory) := by
  intro now
  rw [ending_append, after, performAll_rescripted inMemory 0 before agrees]
  rfl

theorem runs_of_after (inMemory : run.store = .memory) (before : List Step) :
    (run.after before).world.runs
      = run.world.runs.drop (launches (run.performAll 0 before).1) :=
  runs_of_performAll inMemory 0 before

theorem lookup_volumes_of_late (fresh : run.volumes = []) (made : Nat)
    (late : before.length ≤ made) : (run.after before).volumes.lookup made = none := by
  rw [Option.eq_none_iff_forall_not_mem]
  intro volume found
  rcases (lookup_volumes_iff fresh).mp found with ⟨_, _, event, happened, _⟩
  rw [List.getElem?_eq_none (by rwa [length_history])] at happened
  cases happened

theorem ending_without_passing {step : Step} (inMemory : run.store = .memory)
    (fresh : run.volumes = []) (passing : (run.after before).Passing step) {steps : List Step}
    (unreferred : ∀ later ∈ steps, later.made? ≠ some before.length) :
    ∃ earlier report later memory, earlier.length = before.length
      ∧ run.ending (before ++ step :: steps) = (earlier ++ report :: later, memory)
      ∧ (run.rescripted (Agent.withoutOutcomes run.world.runs (launches earlier)
          (Call.launches report.calls))).ending
            (before ++ steps.map (·.renumbered (closing before.length)))
        = (earlier ++ later, memory) := by
  have inMemoryNow : (run.after before).store = .memory := (after_store run before).trans inMemory
  let performed := (run.after before).perform before.length step
  let whole := performed.2.performAll (before.length + 1) steps
  rcases passing.performAll inMemoryNow (lookup_volumes_of_late fresh) unreferred with
    ⟨reports, memory⟩
  refine ⟨(run.performAll 0 before).1, performed.1, whole.1, whole.2.world.memory,
    length_reports run 0 before, by rw [ending_append, performAll_cons], ?_⟩
  -- What is left of the script is what the removed step left of it.
  have left : performed.2.world.runs = run.world.runs.drop
      (launches (run.performAll 0 before).1 + Call.launches performed.1.calls) := by
    rw [runs_of_perform inMemoryNow, runs_of_after inMemory, List.drop_drop]
  rw [ending_rescripted inMemory (fun index small => Agent.outcomeAt_withoutOutcomes _ small _),
    Agent.drop_withoutOutcomes, ← left, reports, memory]

theorem ending_swapped {first second : Step} (inMemory : run.store = .memory)
    (firstDeletes : first.isDeletion = true) (secondDeletes : second.isDeletion = true)
    (steps : List Step) :
    ∃ earlier report other later memory, earlier.length = before.length
      ∧ run.ending (before ++ first :: second :: steps)
        = (earlier ++ report :: other :: later, memory)
      ∧ (run.rescripted (Agent.swapOutcomes run.world.runs (launches earlier)
          (Call.launches report.calls) (Call.launches other.calls))).ending
            (before ++ second :: first :: steps)
        = (earlier ++ other :: report :: later, memory) := by
  have inMemoryNow : (run.after before).store = .memory := (after_store run before).trans inMemory
  let one := (run.after before).perform before.length first
  let two := one.2.perform (before.length + 1) second
  let whole := two.2.performAll (before.length + 2) steps
  rcases perform_swapped firstDeletes secondDeletes inMemoryNow before.length with
    ⟨report, other, common, wholeMatches, swappedMatches⟩
  rcases wholeMatches.performAll (before.length + 2) steps with ⟨wholeReports, wholeEnd⟩
  rcases swappedMatches.performAll (before.length + 2) steps with ⟨swappedReports, swappedEnd⟩
  refine ⟨(run.performAll 0 before).1, one.1, two.1, whole.1, whole.2.world.memory,
    length_reports run 0 before, by rw [ending_append, performAll_cons, performAll_cons], ?_⟩
  rw [ending_rescripted inMemory (fun index small => Agent.outcomeAt_swapOutcomes _ small _ _),
    Agent.drop_swapOutcomes, ← runs_of_after inMemory, performAll_cons, performAll_cons, report,
    other, ← swappedReports, wholeReports, ← swappedEnd.memory_eq, wholeEnd.memory_eq]

end Ending

/-- In memory, a lifecycle without a deletion, or without a claim that is turned away before
the agent is run, goes on as it does with it, when the script comes without the outcome that
this step used and the steps behind it are counted anew; and two successive deletions can
change places together with their outcomes. -/
theorem passing_steps_leave_no_trace (descriptions : List Description) (world : World)
    (before : List Step) :
    let run := start .memory descriptions world
    (∀ step steps, (run.after before).Passing step →
        (∀ later ∈ steps, later.made? ≠ some before.length) →
        ∃ earlier report later memory, earlier.length = before.length
          ∧ run.ending (before ++ step :: steps) = (earlier ++ report :: later, memory)
          ∧ let shorter := start .memory descriptions (world.rescripted
              (Agent.withoutOutcomes world.runs (launches earlier) (Call.launches report.calls)))
            shorter.ending (before ++ steps.map (·.renumbered (closing before.length)))
              = (earlier ++ later, memory))
      ∧ ∀ first second steps, first.isDeletion = true → second.isDeletion = true →
        ∃ earlier report other later memory, earlier.length = before.length
          ∧ run.ending (before ++ first :: second :: steps)
            = (earlier ++ report :: other :: later, memory)
          ∧ let swapped := start .memory descriptions (world.rescripted
              (Agent.swapOutcomes world.runs (launches earlier) (Call.launches report.calls)
                (Call.launches other.calls)))
            swapped.ending (before ++ second :: first :: steps)
              = (earlier ++ other :: report :: later, memory) := by
  intro run
  have scripted : run.world.runs = world.runs := runs_of_start .memory descriptions world
  have started (runs : List Agent.Outcome) :
      start .memory descriptions (world.rescripted runs) = run.rescripted runs :=
    start_rescripted .memory descriptions world runs
  constructor
  · intro step steps passing unreferred
    rcases ending_without_passing rfl rfl passing unreferred with
      ⟨earlier, report, later, memory, length, whole, shorter⟩
    refine ⟨earlier, report, later, memory, length, whole, ?_⟩
    rwa [scripted, ← started] at shorter
  · intro first second steps firstDeletes secondDeletes
    rcases @ending_swapped run before _ _ rfl firstDeletes secondDeletes steps with
      ⟨earlier, report, other, later, memory, length, whole, swapped⟩
    refine ⟨earlier, report, other, later, memory, length, whole, ?_⟩
    rwa [scripted, ← started] at swapped

/-- The sample's claim with a secret that is not there. -/
def unconnectedClaim : Claim :=
  { sampleClaim with parameters := [("monitors", "m"), ("adminSecretName", "gone")] }

theorem passing_steps_leave_no_trace_sample :
    let descriptions : List Description := [{ identity := some "one" }, { identity := some "two" }]
    let world := { sampleWorld with runs := sampleWorld.runs ++ sampleWorld.runs }
    let run := start .memory descriptions world
    let before := [Step.provision 0 sampleClaim]
    let deletion := Step.deleteMade 0 0 {}
    let foreign := Step.deleteMade 1 0 {}
    let steps := [Step.provision 1 sampleClaim, .deleteMade 1 2 {}]
    (∀ step ∈ [deletion, .provision 0 unconnectedClaim], (run.after before).Passing step
        ∧ ∃ earlier report later memory, earlier.length = before.length
          ∧ run.ending (before ++ step :: steps) = (earlier ++ report :: later, memory)
          ∧ (start .memory descriptions (world.rescripted (Agent.withoutOutcomes world.runs
              (launches earlier) (Call.launches report.calls)))).ending
                (before ++ [.provision 1 sampleClaim, .deleteMade 1 1 {}])
            = (earlier ++ later, memory))
      ∧ (∀ later ∈ steps, later.made? ≠ some before.length)
      ∧ deletion.isDeletion = true ∧ foreign.isDeletion = true
      ∧ ∃ earlier report other later memory, earlier.length = before.length
        ∧ run.ending (before ++ deletion :: foreign :: steps)
          = (earlier ++ report :: other :: later, memory)
        ∧ (start .memory descriptions (world.rescripted (Agent.swapOutcomes world.runs
            (launches earlier) (Call.launches report.calls) (Call.launches other.calls)))).ending
              (before ++ foreign :: deletion :: steps)
          = (earlier ++ other :: report :: later, memory) := by
  intro descriptions world run before deletion foreign steps
  let now := run.after before
  have turnedAway : unconnectedClaim.IsTurnedAway now.store now.world.quiet := by
    let gone : SecretReference := ⟨.text "default", .text "gone"⟩
    have admits : unconnectedClaim.Admits ⟨.text "ceph", .text "admin", ["m"], gone⟩ :=
      ⟨rfl, by decide +kernel⟩
    have refused : (runIn now.world.quiet (now.store.connect
        ⟨.text "ceph", .text "admin", ["m"], gone⟩)).1
          = .error (.declared (.secretNotFound gone)) := by decide +kernel
    exact .secret admits refused
  have passing : ∀ step ∈ [deletion, .provision 0 unconnectedClaim],
      (run.after before).Passing step := by
    simp only [List.forall_mem_cons]
    exact ⟨.deletion rfl, .turnedAway turnedAway, nofun⟩
  have unreferred : ∀ later ∈ steps, later.made? ≠ some before.length := by decide +kernel
  have traceless := passing_steps_leave_no_trace descriptions world before
  exact ⟨fun step member => ⟨passing step member,
      traceless.1 step steps (passing step member) unreferred⟩,
    unreferred, rfl, rfl, traceless.2 deletion foreign steps rfl rfl⟩

end Run

end ShareProvisioner
