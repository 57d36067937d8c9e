import Mathlib.Data.List.Induction
import Mathlib.Order.Monotone.Basic
import ShareProvisioner.Proofs.Lifecycle.Course

/-!
# Histories

A history is the steps of a lifecycle together with the reports on them.  Each report is
about one step, performed in the run that the steps before it lead to; so a fact that
every step preserves holds at all points of a history.
-/

namespace ShareProvisioner.Run

def after (run : Run) (steps : List Step) : Run :=
  (run.performAll 0 steps).2

def history (run : Run) (steps : List Step) : List (Step × Report) :=
  steps.zip (run.performAll 0 steps).1

variable {run : Run} {steps : List Step}

theorem performAll_cons (run : Run) (number : Nat) (step : Step) (steps : List Step) :
    run.performAll number (step :: steps)
      = ((run.perform number step).1
          :: ((run.perform number step).2.performAll (number + 1) steps).1,
        ((run.perform number step).2.performAll (number + 1) steps).2) := rfl

theorem performAll_append (run : Run) (number : Nat) (first rest : List Step) :
    run.performAll number (first ++ rest)
      = ((run.performAll number first).1
          ++ ((run.performAll number first).2.performAll (number + first.length) rest).1,
        ((run.performAll number first).2.performAll (number + first.length) rest).2) := by
  induction first generalizing run number with
  | nil => rfl
  | cons step first induction =>
      rw [List.cons_append, performAll_cons, performAll_cons, induction, List.length_cons,
        Nat.add_assoc number 1, Nat.add_comm 1, List.cons_append]

theorem length_reports (run : Run) (number : Nat) (steps : List Step) :
    (run.performAll number steps).1.length = steps.length := by
  induction steps generalizing run number with
  | nil => rfl
  | cons step steps induction => exact congrArg (· + 1) (induction _ _)

@[simp] theorem after_nil (run : Run) : run.after [] = run := rfl

theorem after_concat (run : Run) (steps : List Step) (step : Step) :
    run.after (steps ++ [step]) = ((run.after steps).perform steps.length step).2 := by
  unfold after
  rw [performAll_append, Nat.zero_add]
  rfl

theorem after_take_succ {number : Nat} {step : Step} (is : steps[number]? = some step) :
    run.after (steps.take (number + 1))
      = ((run.after (steps.take number)).perform number step).2 := by
  have short : number ≤ steps.length := Nat.le_of_lt (List.getElem?_eq_some_iff.mp is).1
  rw [List.take_add_one, is, Option.toList_some, after_concat, List.length_take,
    Nat.min_eq_left short]

theorem getElem?_reports {number : Nat} {step : Step} (is : steps[number]? = some step) :
    (run.performAll 0 steps).1[number]?
      = some ((run.after (steps.take number)).perform number step).1 := by
  rcases List.getElem?_eq_some_iff.mp is with ⟨short, isStep⟩
  have divided : steps.take number ++ step :: steps.drop (number + 1) = steps := by
    rw [← isStep, List.getElem_cons_drop, List.take_append_drop]
  have length : (steps.take number).length = number :=
    List.length_take_of_le (Nat.le_of_lt short)
  have reports := performAll_append run 0 (steps.take number)
    (step :: steps.drop (number + 1))
  rw [divided, length, Nat.zero_add] at reports
  rw [reports, List.getElem?_append_right (by rw [length_reports, length]), length_reports,
    length, Nat.sub_self]
  rfl

theorem getElem?_history {number : Nat} {step : Step} {report : Report} :
    (run.history steps)[number]? = some (step, report)
      ↔ steps[number]? = some step
        ∧ ((run.after (steps.take number)).perform number step).1 = report := by
  unfold history
  rw [List.getElem?_zip_eq_some]
  refine and_congr_right fun is => ?_
  rw [getElem?_reports is, Option.some_inj]

theorem course_of_history {number : Nat} {step : Step} {report : Report}
    (happened : (run.history steps)[number]? = some (step, report)) :
    StepCourse (run.after (steps.take number)) number step report
      (run.after (steps.take (number + 1))) := by
  rcases getElem?_history.mp happened with ⟨is, rfl⟩
  rw [after_take_succ is]
  exact perform_course _ _ _

theorem length_history (run : Run) (steps : List Step) :
    (run.history steps).length = steps.length := by
  rw [history, List.length_zip, length_reports, Nat.min_self]

theorem history_concat (run : Run) (steps : List Step) (step : Step) :
    run.history (steps ++ [step])
      = run.history steps ++ [(step, ((run.after steps).perform steps.length step).1)] := by
  unfold history
  rw [performAll_append, List.zip_append (length_reports run 0 steps).symm, Nat.zero_add]
  rfl

theorem getElem?_history_concat (run : Run) (steps : List Step) (step : Step) (number : Nat) :
    (run.history (steps ++ [step]))[number]?
      = if number = steps.length then
          some (step, ((run.after steps).perform steps.length step).1)
        else (run.history steps)[number]? := by
  rw [history_concat]
  by_cases last : number = steps.length
  · rw [if_pos last, last, ← length_history run steps, List.getElem?_concat_length]
  · rw [if_neg last]
    rcases Nat.lt_or_gt_of_ne last with earlier | later
    · rw [List.getElem?_append_left (by rwa [length_history])]
    · rw [List.getElem?_eq_none (by simp [length_history]; omega),
        List.getElem?_eq_none (by rw [length_history]; omega)]

/-! ## What a history keeps -/

theorem after_store (run : Run) (steps : List Step) : (run.after steps).store = run.store := by
  induction steps using List.reverseRecOn with
  | nil => rfl
  | append_singleton steps step induction =>
      rw [after_concat, (perform_course _ _ _).store_eq, induction]

theorem after_provisioners (run : Run) (steps : List Step) :
    (run.after steps).provisioners = run.provisioners := by
  induction steps using List.reverseRecOn with
  | nil => rfl
  | append_singleton steps step induction =>
      rw [after_concat, (perform_course _ _ _).provisioners_eq, induction]

/-- Identifiers are only ever taken. -/
theorem nextId_after_take_mono (run : Run) (steps : List Step) :
    Monotone fun number => (run.after (steps.take number)).world.nextId := by
  refine monotone_nat_of_le_succ fun number => ?_
  cases is : steps[number]? with
  | none =>
      have same : steps.take (number + 1) = steps.take number := by
        rw [List.take_add_one, is, Option.toList_none, List.append_nil]
      rw [same]
  | some step =>
      rw [after_take_succ is]
      exact (perform_course _ _ _).nextId_le

/-! ## Volumes that were made -/

/-- Whether a step of a history returned a volume for a claim. -/
def Returned (run : Run) (steps : List Step) (number actor : Nat) (claim : Claim)
    (volume : Volume) : Prop :=
  ∃ event ∈ (run.history steps)[number]?,
    event.1 = .provision actor claim ∧ event.2.result = .volume volume

def Ran (run : Run) (steps : List Step) (number actor : Nat) (invocation : Agent.Invocation) :
    Prop :=
  ∃ event ∈ (run.history steps)[number]?,
    event.1.actor? = some actor ∧ .agent invocation ∈ event.2.calls

instance (run : Run) (steps : List Step) (number actor : Nat) (claim : Claim)
    (volume : Volume) : Decidable (run.Returned steps number actor claim volume) :=
  inferInstanceAs (Decidable (∃ event ∈ (run.history steps)[number]?, _ ∧ _))

instance (run : Run) (steps : List Step) (number actor : Nat) (invocation : Agent.Invocation) :
    Decidable (run.Ran steps number actor invocation) :=
  inferInstanceAs (Decidable (∃ event ∈ (run.history steps)[number]?, _ ∧ _))

theorem returned_concat {step : Step} {made actor : Nat} {claim : Claim} {volume : Volume} :
    run.Returned (steps ++ [step]) made actor claim volume
      ↔ if made = steps.length then step = .provision actor claim
          ∧ ((run.after steps).perform steps.length step).1.result = .volume volume
        else run.Returned steps made actor claim volume := by
  unfold Returned
  rw [getElem?_history_concat]
  split
  · simp
  · rfl

/-- Just the volumes that a history returned are kept, under the numbers of the steps. -/
theorem lookup_volumes_iff (fresh : run.volumes = []) {made : Nat} {volume : Volume} :
    (run.after steps).volumes.lookup made = some volume
      ↔ ∃ actor claim, run.Returned steps made actor claim volume := by
  induction steps using List.reverseRecOn with
  | nil => simp [fresh, Returned, history]
  | append_singleton steps step induction =>
      -- Only the last step can add a volume, and it does so under its own number.
      have course := perform_course (run.after steps) steps.length step
      simp only [after_concat, returned_concat]
      generalize ((run.after steps).perform steps.length step).1 = report at course ⊢
      generalize ((run.after steps).perform steps.length step).2 = next at course ⊢
      rcases course.volumes_eq with ⟨other, returned, kept⟩ | ⟨unreturned, kept⟩
      · rcases course.course_of_volume returned with ⟨actor, claim, _, rfl, _⟩
        rw [kept, List.lookup_cons]
        by_cases last : made = steps.length
        · simp [last, returned]
        · have different : (made == steps.length) = false := beq_false_of_ne last
          simpa [different, last] using induction
      · rw [kept, induction]
        by_cases last : made = steps.length
        · simp [last, unreturned, Returned, length_history]
        · simp [last]

theorem Returned.of_take {number made actor : Nat} {claim : Claim} {volume : Volume}
    (returned : run.Returned (steps.take number) made actor claim volume) :
    made < number ∧ run.Returned steps made actor claim volume := by
  rcases returned with ⟨⟨step, report⟩, happened, isProvision, returned⟩
  rcases getElem?_history.mp happened with ⟨is, reported⟩
  have before : made < number := by
    have short := (List.getElem?_eq_some_iff.mp is).1
    rw [List.length_take] at short
    omega
  rw [List.getElem?_take_of_lt before] at is
  rw [List.take_take, Nat.min_eq_left (Nat.le_of_lt before)] at reported
  exact ⟨before, _, getElem?_history.mpr ⟨is, reported⟩, isProvision, returned⟩

/-! ## A small lifecycle -/

/-- A cluster with a class whose administrator's key is `k`, where the agent first reports
a share for a user `u` and then has nothing to report. -/
def sampleWorld : World where
  memory := {
    secrets := [(("default", "admin"), [("key", .octets [107])])]
    classes := [("fast", .ofTexts [("monitors", "m"), ("adminSecretName", "admin")])] }
  runs := [.exited 0 ("\x7b\"path\":\"/s\",\"user\":\"u\",\"auth\":\"x\"\x7d".toList.map
    (UInt8.ofNat ·.toNat)) [], .exited 0 [] []]

def sample : Run :=
  start .memory [{ identity := some "one" }, { identity := some "two" }] sampleWorld

def sampleClaim : Claim where
  volumeName := "pv"
  namespaceName := "team"
  capacity := "1Gi"
  parameters := [("monitors", "m"), ("adminSecretName", "admin")]
  storageClass := some "fast"

/-- The claim is satisfied, and the volume is deleted from an edited object. -/
def sampleSteps : List Step :=
  [.provision 0 sampleClaim,
    .deleteMade 0 0 { set := [("note", .text "old")], drop := [AnnotationKey.storageClass.name] }]

example : (sample.history sampleSteps).map (·.2.calls.length) = [3, 3] := by decide +kernel

end ShareProvisioner.Run
