import ShareProvisioner.Proofs.Agent.Alike
import ShareProvisioner.Proofs.Outside.Store
import ShareProvisioner.Proofs.Text.Utf8

/-!
# Worlds that look alike

Two worlds look alike if they differ only in what is to be kept secret: in the values of
secrets, and in what the agent prints beyond the part that is shown.  Two actions agree if
they lead from worlds that look alike to such worlds, with results that are related.  An
action built from actions that agree agrees with one built the same way.
-/

namespace ShareProvisioner

/-- Whether two calls are the same up to the administrator's key in the environment of the
agent and up to the values of a secret to be created. -/
inductive Call.Alike : Call → Call → Prop
  | same (call : Call) : Alike call call
  | agent {invocation other : Agent.Invocation} (alike : invocation.Alike other) :
      Alike (.agent invocation) (.agent other)
  | createSecret (secret : SecretReference) (type : Json) {data other : SecretData}
      (names : data.map Prod.fst = other.map Prod.fst) :
      Alike (.createSecret secret type data) (.createSecret secret type other)

structure Memory.Alike (memory other : Memory) : Prop where
  secrets : Entries.Related SecretData.Alike memory.secrets other.secrets
  classes : memory.classes = other.classes

structure World.Alike (world other : World) : Prop where
  memory : world.memory.Alike other.memory
  runs : List.Forall₂ Agent.Outcome.Alike world.runs other.runs
  nextId : world.nextId = other.nextId
  calls : List.Forall₂ Call.Alike world.calls other.calls

theorem World.Alike.nextOutcome {world other : World} (alike : world.Alike other) :
    world.nextOutcome.Alike other.nextOutcome := by
  have outcomes := alike.runs
  unfold World.nextOutcome
  generalize world.runs = runs at outcomes ⊢
  generalize other.runs = otherRuns at outcomes ⊢
  cases outcomes with
  | nil => exact .notStarted ..
  | cons first rest => exact first

namespace Action

variable {α β : Type} {related : α → α → Prop} {relatedNext : β → β → Prop}

/-- Whether two actions lead from worlds that look alike to such worlds, and to related
results. -/
def Agree (related : α → α → Prop) (action other : Action α) : Prop :=
  ∀ world otherWorld : World, world.Alike otherWorld →
    Result.Alike Failure.Alike related (runIn world action).1 (runIn otherWorld other).1
      ∧ (runIn world action).2.Alike (runIn otherWorld other).2

namespace Agree

theorem pure {value other : α} (relates : related value other) :
    Agree related (Pure.pure value) (Pure.pure other) :=
  fun _ _ alike => ⟨.ok relates, alike⟩

theorem bind {action other : Action α} {next otherNext : α → Action β}
    (first : Agree related action other)
    (rest : ∀ value otherValue, related value otherValue →
      Agree relatedNext (next value) (otherNext otherValue)) :
    Agree relatedNext (action >>= next) (other >>= otherNext) := by
  intro world otherWorld alike
  rw [runIn_bind, runIn_bind]
  have middles := first world otherWorld alike
  generalize runIn world action = outcome at middles ⊢
  generalize runIn otherWorld other = otherOutcome at middles ⊢
  rcases outcome with ⟨result, middle⟩
  rcases otherOutcome with ⟨otherResult, otherMiddle⟩
  rcases middles with ⟨results, worlds⟩
  dsimp only at results worlds
  cases results with
  | ok relates => exact rest _ _ relates middle otherMiddle worlds
  | error failures => exact ⟨.error failures, worlds⟩

/-- After actions with one result, the same is left to be done. -/
theorem bind_same {action other : Action α} {next otherNext : α → Action β}
    (first : Agree Eq action other)
    (rest : ∀ value, Agree relatedNext (next value) (otherNext value)) :
    Agree relatedNext (action >>= next) (other >>= otherNext) := by
  refine first.bind fun value otherValue same => ?_
  subst same
  exact rest value

theorem lift (result : Except Failure α) : Agree Eq (Action.lift result) (Action.lift result) := by
  intro world otherWorld worlds
  rw [runIn_lift, runIn_lift]
  exact ⟨.refl result .refl fun _ => rfl, worlds⟩

theorem checked {result other : Except Failure.Cause α}
    (alike : Result.Alike Failure.Cause.Alike related result other) :
    Agree related (Action.checked result) (Action.checked other) := by
  intro world otherWorld worlds
  rw [runIn_checked, runIn_checked]
  exact ⟨alike.mapError fun _ _ => .declared, worlds⟩

theorem guarded {result other : Except Failure.Fault α}
    (alike : Result.Alike Failure.Fault.Alike related result other) :
    Agree related (Action.guarded result) (Action.guarded other) := by
  intro world otherWorld worlds
  rw [runIn_guarded, runIn_guarded]
  exact ⟨alike.mapError fun fault other _ => .unexpected fault other, worlds⟩

theorem refuse (cause : Failure.Cause) :
    Agree related (Action.refuse cause) (Action.refuse cause) :=
  fun _ _ alike => ⟨.error (.refl _), alike⟩

theorem refuse_bind (cause : Failure.Cause) (next otherNext : α → Action β) :
    Agree relatedNext (Action.refuse cause >>= next) (Action.refuse cause >>= otherNext) :=
  fun _ _ alike => ⟨.error (.refl _), alike⟩

theorem note {call other : Call} (alike : call.Alike other) :
    Agree Eq (Action.note call) (Action.note other) := by
  intro world otherWorld worlds
  exact ⟨.ok rfl, ⟨worlds.memory, worlds.runs, worlds.nextId,
    List.rel_append worlds.calls (.cons alike .nil)⟩⟩

theorem get : Agree World.Alike MonadState.get MonadState.get :=
  fun _ _ alike => ⟨.ok alike, alike⟩

theorem set {world other : World} (alike : world.Alike other) :
    Agree Eq (MonadStateOf.set world : Action PUnit) (MonadStateOf.set other) :=
  fun _ _ _ => ⟨.ok rfl, alike⟩

theorem freshIdentifier : Agree Eq Action.freshIdentifier Action.freshIdentifier := by
  intro world otherWorld worlds
  refine ⟨.ok ?_, worlds.memory, worlds.runs, ?_, worlds.calls⟩
  · exact congrArg identifierText worlds.nextId
  · exact congrArg (· + 1) worlds.nextId

theorem launch {invocation other : Agent.Invocation} (alike : invocation.Alike other) :
    Agree Agent.Outcome.Alike (Action.launch invocation) (Action.launch other) := by
  intro world otherWorld worlds
  rw [runIn_launch, runIn_launch]
  have remaining : List.Forall₂ Agent.Outcome.Alike world.runs.tail otherWorld.runs.tail := by
    simpa using List.forall₂_drop 1 worlds.runs
  exact ⟨.ok worlds.nextOutcome, worlds.memory, remaining, worlds.nextId,
    List.rel_append worlds.calls (.cons (.agent alike) .nil)⟩

end Agree

end Action

end ShareProvisioner
