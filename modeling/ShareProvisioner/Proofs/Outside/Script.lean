import ShareProvisioner.Proofs.Outside.Store

/-!
# Following a script

How the runs of the agent end is given beforehand, one outcome for each run.  An action
uses up as many of these as it runs the agent; the outcomes behind them neither change what
it does nor are they touched by it.
-/

namespace ShareProvisioner

namespace Agent

/-- How the run of the given index ends; behind the last outcome there is no program. -/
def outcomeAt (runs : List Outcome) (index : Nat) : Outcome :=
  runs[index]?.getD (.notStarted 2 "No such file or directory")

theorem outcomeAt_drop (runs : List Outcome) (used index : Nat) :
    outcomeAt (runs.drop used) index = outcomeAt runs (used + index) := by
  rw [outcomeAt, List.getElem?_drop, outcomeAt]

/-- The outcomes of so many runs from a certain one on. -/
def outcomesFrom (runs : List Outcome) (start count : Nat) : List Outcome :=
  (List.range count).map fun index => outcomeAt runs (start + index)

section OutcomesFrom

variable (runs rest : List Outcome) (start count : Nat)

theorem outcomeAt_outcomesFrom_append {index : Nat} (small : index < count) :
    outcomeAt (outcomesFrom runs start count ++ rest) index = outcomeAt runs (start + index) := by
  have inside : index < (outcomesFrom runs start count).length := by simpa [outcomesFrom] using small
  rw [outcomeAt, List.getElem?_append_left inside]
  simp [outcomesFrom, small]

theorem drop_outcomesFrom_append : (outcomesFrom runs start count ++ rest).drop count = rest := by
  have length : (outcomesFrom runs start count).length = count := by simp [outcomesFrom]
  exact List.drop_left' length

end OutcomesFrom

/-- A script without the outcomes of so many runs behind the earlier ones. -/
def withoutOutcomes (runs : List Outcome) (earlier used : Nat) : List Outcome :=
  runs.take earlier ++ runs.drop (earlier + used)

theorem outcomeAt_withoutOutcomes (runs : List Outcome) {earlier index : Nat}
    (small : index < earlier) (used : Nat) :
    outcomeAt (withoutOutcomes runs earlier used) index = outcomeAt runs index := by
  unfold withoutOutcomes outcomeAt
  rw [List.getElem?_append]
  split
  · rw [List.getElem?_take_of_lt small]
  · next short =>
      have ended : runs.length ≤ index := by
        rw [List.length_take] at short
        omega
      rw [List.drop_eq_nil_of_le (by omega), List.getElem?_nil, List.getElem?_eq_none ended]

theorem drop_withoutOutcomes (runs : List Outcome) (earlier used : Nat) :
    (withoutOutcomes runs earlier used).drop earlier = runs.drop (earlier + used) := by
  unfold withoutOutcomes
  rw [List.drop_append, List.drop_take, Nat.sub_self, List.take_zero, List.nil_append,
    List.length_take, List.drop_drop]
  by_cases enough : earlier ≤ runs.length
  · rw [Nat.min_eq_left enough, Nat.sub_self, Nat.add_zero]
  · rw [List.drop_eq_nil_of_le (by omega), List.drop_eq_nil_of_le (by omega)]

/-- A script with the outcomes of its next runs swapped: so many, and the so many behind. -/
def swapNext (runs : List Outcome) (first second : Nat) : List Outcome :=
  outcomesFrom runs first second ++ (outcomesFrom runs 0 first ++ runs.drop (first + second))

theorem outcomeAt_swapNext (runs : List Outcome) (first : Nat) {second index : Nat}
    (small : index < second) :
    outcomeAt (swapNext runs first second) index = outcomeAt (runs.drop first) index := by
  rw [swapNext, outcomeAt_outcomesFrom_append _ _ _ _ small, outcomeAt_drop]

theorem drop_swapNext (runs : List Outcome) (first second : Nat) :
    (swapNext runs first second).drop second
      = outcomesFrom runs 0 first ++ runs.drop (first + second) :=
  drop_outcomesFrom_append ..

/-- A script with the outcomes of two successive steps swapped, the first of which comes
behind so many earlier runs. -/
def swapOutcomes (runs : List Outcome) (earlier first second : Nat) : List Outcome :=
  outcomesFrom runs 0 earlier ++ swapNext (runs.drop earlier) first second

theorem outcomeAt_swapOutcomes (runs : List Outcome) {earlier index : Nat}
    (small : index < earlier) (first second : Nat) :
    outcomeAt (swapOutcomes runs earlier first second) index = outcomeAt runs index := by
  rw [swapOutcomes, outcomeAt_outcomesFrom_append _ _ _ _ small, Nat.zero_add]

theorem drop_swapOutcomes (runs : List Outcome) (earlier first second : Nat) :
    (swapOutcomes runs earlier first second).drop earlier
      = swapNext (runs.drop earlier) first second :=
  drop_outcomesFrom_append ..

end Agent

/-- How often calls run the agent. -/
def Call.launches (calls : List Call) : Nat :=
  calls.countP (·.invocation?.isSome)

theorem Call.launches_append (calls others : List Call) :
    launches (calls ++ others) = launches calls + launches others :=
  List.countP_append

namespace World

/-- The world in which the runs of the agent are to end as given. -/
def rescripted (world : World) (runs : List Agent.Outcome) : World :=
  { world with runs }

@[simp] theorem rescripted_runs (world : World) : world.rescripted world.runs = world := rfl

@[simp] theorem runs_rescripted (world : World) (runs : List Agent.Outcome) :
    (world.rescripted runs).runs = runs := rfl

@[simp] theorem memory_rescripted (world : World) (runs : List Agent.Outcome) :
    (world.rescripted runs).memory = world.memory := rfl

theorem nextOutcome_eq (world : World) : world.nextOutcome = Agent.outcomeAt world.runs 0 := by
  rw [nextOutcome, Agent.outcomeAt, List.head?_eq_getElem?]

end World

namespace Action

variable {α β : Type}

/-- Whether an action that runs the agent so and so often does the same under every script
that starts with the same outcomes, and leaves what comes behind them. -/
def Follows (action : Action α) : Prop :=
  ∀ world : World, ∃ used,
    Call.launches (runIn world action).2.calls = Call.launches world.calls + used
      ∧ ∀ runs, (∀ index < used, Agent.outcomeAt runs index = Agent.outcomeAt world.runs index) →
        runIn (world.rescripted runs) action
          = ((runIn world action).1, (runIn world action).2.rescripted (runs.drop used))

namespace Follows

/-- An action that runs no agent and looks at no script follows every one. -/
theorem of_idle {action : Action α}
    (idle : ∀ world, Call.launches (runIn world action).2.calls = Call.launches world.calls)
    (same : ∀ world runs, runIn (world.rescripted runs) action
      = ((runIn world action).1, (runIn world action).2.rescripted runs)) :
    Follows action :=
  fun world => ⟨0, idle world, fun runs _ => same world runs⟩

theorem pure (value : α) : Follows (Pure.pure value) :=
  .of_idle (fun _ => rfl) fun _ _ => rfl

theorem refuse (cause : Failure.Cause) : Follows (Action.refuse cause : Action α) :=
  .of_idle (fun _ => rfl) fun _ _ => rfl

theorem refuse_bind (cause : Failure.Cause) (next : α → Action β) :
    Follows (Action.refuse cause >>= next) :=
  .of_idle (fun _ => rfl) fun _ _ => rfl

theorem lift (result : Except Failure α) : Follows (Action.lift result) :=
  .of_idle (fun _ => by rw [runIn_lift]) fun _ _ => by rw [runIn_lift, runIn_lift]

theorem checked (result : Except Failure.Cause α) : Follows (Action.checked result) :=
  .of_idle (fun _ => by rw [runIn_checked]) fun _ _ => by rw [runIn_checked, runIn_checked]

theorem guarded (result : Except Failure.Fault α) : Follows (Action.guarded result) :=
  .of_idle (fun _ => by rw [runIn_guarded]) fun _ _ => by rw [runIn_guarded, runIn_guarded]

theorem freshIdentifier : Follows Action.freshIdentifier :=
  .of_idle (fun _ => rfl) fun _ _ => rfl

theorem note {call : Call} (silent : call.invocation? = none) : Follows (Action.note call) := by
  refine .of_idle (fun world => ?_) fun _ _ => rfl
  rw [runIn_note, Call.launches_append]
  simp [Call.launches, silent]

theorem launch (invocation : Agent.Invocation) : Follows (Action.launch invocation) := by
  intro world
  refine ⟨1, ?_, fun runs agrees => ?_⟩
  · rw [runIn_launch, World.launched, Call.launches_append]
    rfl
  · rw [runIn_launch, runIn_launch, World.nextOutcome_eq, World.nextOutcome_eq,
      World.runs_rescripted, agrees 0 Nat.zero_lt_one, World.launched, World.launched,
      World.runs_rescripted, List.drop_one]
    rfl

theorem bind {action : Action α} {next : α → Action β} (first : Follows action)
    (rest : ∀ value, Follows (next value)) : Follows (action >>= next) := by
  intro world
  rcases first world with ⟨used, launched, follows⟩
  -- What the first action leaves of its own script is where the second one starts.
  have own := follows world.runs fun _ _ => rfl
  rw [World.rescripted_runs] at own
  have left : (runIn world action).2.runs = world.runs.drop used :=
    congrArg (fun outcome => outcome.2.runs) own
  simp only [runIn_bind]
  generalize runIn world action = outcome at launched follows left ⊢
  rcases outcome with ⟨result, middle⟩
  cases result with
  | error failure =>
      refine ⟨used, launched, fun runs agrees => ?_⟩
      rw [follows runs agrees]
  | ok value =>
      rcases rest value middle with ⟨usedNext, launchedNext, followsNext⟩
      dsimp only at launched left ⊢
      refine ⟨used + usedNext, by omega, fun runs agrees => ?_⟩
      rw [follows runs fun index small => agrees index (by omega)]
      dsimp only
      rw [followsNext (runs.drop used) fun index small => ?_, List.drop_drop]
      rw [left, Agent.outcomeAt_drop, Agent.outcomeAt_drop]
      exact agrees (used + index) (by omega)

/-- An action may look at all of the world but the script. -/
theorem get_bind {next : World → Action β} (rest : ∀ world, Follows (next world))
    (same : ∀ world runs, next (world.rescripted runs) = next world) :
    Follows (MonadState.get >>= next) := by
  intro world
  rcases rest world world with ⟨used, launched, follows⟩
  refine ⟨used, launched, fun runs agrees => ?_⟩
  rw [runIn_bind_ok runIn_get, same, runIn_bind_ok runIn_get]
  exact follows runs agrees

end Follows

end Action

end ShareProvisioner
