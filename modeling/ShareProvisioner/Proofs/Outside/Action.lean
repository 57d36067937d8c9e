import ShareProvisioner.Outside.World
import ShareProvisioner.Proofs.Text.Hexadecimal

/-!
# Running actions

An action takes a world to a result and to the world afterwards.  The equations below
give both for each way in which an action is made, so that a longer one can be followed
step by step without looking at how actions are represented.
-/

namespace ShareProvisioner

namespace World

/-- How the next run of the agent ends; without a scripted end there is no program. -/
def nextOutcome (world : World) : Agent.Outcome :=
  world.runs.head?.getD (.notStarted 2 "No such file or directory")

def launched (world : World) (invocation : Agent.Invocation) : World :=
  { world with runs := world.runs.tail, calls := world.calls ++ [.agent invocation] }

/-- The next answer of an API server; without a scripted one there is no connection. -/
def nextResponse (world : World) : Http.Outcome :=
  world.responses.head?.getD (.failed .connection "no response scripted")

def sent (world : World) (request : Http.Request) : World :=
  { world with
    responses := world.responses.tail
    calls := world.calls ++ [.http request] }

end World

namespace Action

variable {α β : Type} {world after : World}

@[simp] theorem runIn_pure (value : α) : runIn world (pure value) = (.ok value, world) := rfl

@[simp] theorem runIn_lift (result : Except Failure α) :
    runIn world (lift result) = (result, world) := by
  cases result <;> rfl

@[simp] theorem runIn_checked (result : Except Failure.Cause α) :
    runIn world (checked result) = (result.mapError .declared, world) := by
  cases result <;> rfl

@[simp] theorem runIn_guarded (result : Except Failure.Fault α) :
    runIn world (guarded result) = (result.mapError .unexpected, world) := by
  cases result <;> rfl

@[simp] theorem runIn_get : runIn world (get : Action World) = (.ok world, world) := rfl

@[simp] theorem runIn_set (changed : World) :
    runIn world (set changed : Action PUnit) = (.ok .unit, changed) := rfl

@[simp] theorem runIn_note (call : Call) :
    runIn world (note call) = (.ok (), { world with calls := world.calls ++ [call] }) := rfl

@[simp] theorem runIn_freshIdentifier :
    runIn world freshIdentifier
      = (.ok (identifierText world.nextId), { world with nextId := world.nextId + 1 }) := rfl

theorem identifierText_injective : Function.Injective identifierText := fun _ _ equal =>
  Text.hexadecimal_injective 12 (List.append_cancel_left equal)

/-! ## Sequences -/

theorem runIn_bind (action : Action α) (next : α → Action β) :
    runIn world (action >>= next) = match runIn world action with
      | (.ok value, middle) => runIn middle (next value)
      | (.error failure, middle) => (.error failure, middle) := by
  have continued : runIn world (action >>= next)
      = ExceptT.bindCont next (runIn world action).1 (runIn world action).2 := rfl
  rw [continued]
  rcases runIn world action with ⟨result, middle⟩
  cases result with
  | ok value => rfl
  | error failure => rfl

theorem runIn_bind_eq_ok_iff {action : Action α} {next : α → Action β} {result : β} :
    (runIn world (action >>= next)).1 = .ok result
      ↔ ∃ value, (runIn world action).1 = .ok value
          ∧ (runIn (runIn world action).2 (next value)).1 = .ok result := by
  rw [runIn_bind]
  rcases runIn world action with ⟨outcome, middle⟩
  cases outcome <;> simp

theorem runIn_bind_eq_error_iff {action : Action α} {next : α → Action β} {failure : Failure} :
    (runIn world (action >>= next)).1 = .error failure
      ↔ (runIn world action).1 = .error failure
        ∨ ∃ value, (runIn world action).1 = .ok value
          ∧ (runIn (runIn world action).2 (next value)).1 = .error failure := by
  rw [runIn_bind]
  rcases runIn world action with ⟨outcome, middle⟩
  cases outcome <;> simp

theorem runIn_bind_ok {action : Action α} {value : α}
    (succeeds : runIn world action = (.ok value, after)) (next : α → Action β) :
    runIn world (action >>= next) = runIn after (next value) := by
  rw [runIn_bind, succeeds]

theorem runIn_bind_error {action : Action α} {failure : Failure}
    (fails : runIn world action = (.error failure, after)) (next : α → Action β) :
    runIn world (action >>= next) = (.error failure, after) := by
  rw [runIn_bind, fails]

theorem runIn_bind_pure (action : Action α) (build : α → β) :
    runIn world (action >>= fun value => pure (build value))
      = ((runIn world action).1.map build, (runIn world action).2) := by
  rw [runIn_bind]
  rcases runIn world action with ⟨result, middle⟩
  cases result <;> rfl

/-! ## Observing -/

/-- Whether an action only looks at the world and never changes it. -/
def Observes (action : Action α) : Prop :=
  ∀ world, (runIn world action).2 = world

theorem observes_pure (value : α) : Observes (pure value) := fun _ => rfl

theorem observes_refuse (cause : Failure.Cause) : Observes (refuse cause : Action α) :=
  fun _ => rfl

theorem observes_checked (result : Except Failure.Cause α) : Observes (checked result) :=
  fun _ => by rw [runIn_checked]

theorem observes_guarded (result : Except Failure.Fault α) : Observes (guarded result) :=
  fun _ => by rw [runIn_guarded]

theorem observes_get : Observes get := fun _ => rfl

theorem runIn_bind_world (action : Action α) {next : α → Action β}
    (observes : ∀ value, Observes (next value)) :
    (runIn world (action >>= next)).2 = (runIn world action).2 := by
  rw [runIn_bind]
  rcases runIn world action with ⟨result, middle⟩
  cases result with
  | ok value => exact observes value middle
  | error failure => rfl

theorem Observes.bind {action : Action α} {next : α → Action β} (first : Observes action)
    (rest : ∀ value, Observes (next value)) : Observes (action >>= next) := by
  intro world
  rw [runIn_bind_world action rest]
  exact first world

/-! ## Requests and runs of the agent -/

@[simp] theorem runIn_send (request : Http.Request) :
    runIn world (send request) = (.ok world.nextResponse, world.sent request) := by
  unfold send
  rw [runIn_bind_ok (runIn_note _), runIn_bind_ok runIn_get]
  cases responses : world.responses with
  | nil => simp [World.nextResponse, World.sent, responses]
  | cons outcome rest =>
      simp only
      rw [runIn_bind_ok (runIn_set _)]
      simp [World.nextResponse, World.sent, responses]

@[simp] theorem runIn_launch (invocation : Agent.Invocation) :
    runIn world (launch invocation) = (.ok world.nextOutcome, world.launched invocation) := by
  unfold launch
  rw [runIn_bind_ok (runIn_note _), runIn_bind_ok runIn_get]
  cases runs : world.runs with
  | nil => simp [World.nextOutcome, World.launched, runs]
  | cons outcome rest =>
      simp only
      rw [runIn_bind_ok (runIn_set _)]
      simp [World.nextOutcome, World.launched, runs]

end Action

end ShareProvisioner
