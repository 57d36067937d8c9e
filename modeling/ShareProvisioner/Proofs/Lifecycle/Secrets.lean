import ShareProvisioner.Proofs.Lifecycle.History

/-!
# Secrets over a lifecycle

Secrets come from outside a lifecycle, or they are published together with a volume.  An
attempt that fails leaves none behind, and deleting a volume takes none away.
-/

namespace ShareProvisioner

theorem Provisioner.make_memory (identity name agentPath : Option Text) (world : World) :
    (Action.runIn world (make identity name agentPath)).2.memory = world.memory := by
  unfold make
  rcases identity with _ | _ | ⟨first, rest⟩ <;> rfl

/-- Whether a step is an attempt that fails, or one to delete a volume. -/
def Step.isFruitless : Step → StepResult → Bool
  | provision .., .failed _ | delete .., _ | deleteMade .., _ => true
  | _, _ => false

def Step.touchesSecrets : Step → Bool
  | putSecret .. | dropSecret .. => true
  | _ => false

theorem Step.touchesSecrets_of_actor? {step : Step} {actor : Nat}
    (asked : step.actor? = some actor) : step.touchesSecrets = false := by
  cases step with
  | putSecret | dropSecret => cases asked
  | _ => rfl

namespace Run

variable {run : Run} {steps : List Step}

theorem makeProvisioners_memory (world : World) (descriptions : List Description) :
    (makeProvisioners world descriptions).2.memory = world.memory := by
  induction descriptions generalizing world with
  | nil => rfl
  | cons description rest induction =>
      have made := Provisioner.make_memory description.identity description.name
        description.agentPath world
      unfold makeProvisioners
      split
      · next ran => rw [induction, ← made, ran]
      · next ran => exact (induction _).trans (by rw [← made, ran])

/-- Whether secrets are just those that the steps of a lifecycle account for: the secrets
at its start, those put and dropped, and one for each volume returned, under a name that
was free and with the key that the agent reported. -/
inductive Accounted (run : Run) : List Step → Entries (Text × Text) SecretData → Prop
  | start : Accounted run [] run.world.memory.secrets
  | put {steps secrets namespaceName name data} (before : Accounted run steps secrets) :
      Accounted run (steps ++ [.putSecret namespaceName name data])
        (secrets.insert (namespaceName, name) data)
  | dropped {steps secrets namespaceName name} (before : Accounted run steps secrets) :
      Accounted run (steps ++ [.dropSecret namespaceName name])
        (secrets.erase (namespaceName, name))
  | published {steps secrets actor claim volume name record key}
      (before : Accounted run steps secrets)
      (returned : run.Returned (steps ++ [.provision actor claim]) steps.length actor claim volume)
      (named : volume.secretName = .text name)
      (free : secrets.find? (claim.namespaceName, name) = none)
      (reports : (run.after steps).world.nextOutcome.Reports record)
      (encoded : Utf8.encode record.key = .ok key) :
      Accounted run (steps ++ [.provision actor claim])
        (secrets.insert (claim.namespaceName, name) [("key", .octets key)])
  | kept {steps secrets step} (before : Accounted run steps secrets)
      (unreturned : ∀ actor claim volume,
        ¬run.Returned (steps ++ [step]) steps.length actor claim volume)
      (untouched : step.touchesSecrets = false) : Accounted run (steps ++ [step]) secrets

theorem StepCourse.memory_eq {number : Nat} {step : Step} {report : Report} {after : Run}
    (course : StepCourse run number step report after)
    (fruitless : step.isFruitless report.result) :
    after.world.memory = run.world.memory := by
  cases course with
  | provisioned => cases fruitless
  | unprovisioned acts course => exact course.memory_of_error
  | attempted presents acts read course => exact course.memory_eq
  | secretPut | secretDropped | classPut | classDropped => cases fruitless
  | _ => rfl

theorem Accounted.concat (inMemory : run.store = .memory) {step : Step}
    (before : run.Accounted steps (run.after steps).world.memory.secrets) :
    run.Accounted (steps ++ [step]) (run.after (steps ++ [step])).world.memory.secrets := by
  have course := perform_course (run.after steps) steps.length step
  have returns (actor : Nat) (claim : Claim) (volume : Volume) :
      run.Returned (steps ++ [step]) steps.length actor claim volume
        ↔ step = .provision actor claim
          ∧ ((run.after steps).perform steps.length step).1.result = .volume volume :=
    returned_concat.trans (by rw [if_pos rfl])
  -- From here on nothing is used about the step but the rule by which it went.
  rw [after_concat]
  generalize ((run.after steps).perform steps.length step).1 = report at course returns
  generalize ((run.after steps).perform steps.length step).2 = next at course ⊢
  have keeps (same : next.world.memory.secrets = (run.after steps).world.memory.secrets)
      (unreturned : ∀ volume, report.result ≠ .volume volume)
      (untouched : step.touchesSecrets = false) :
      run.Accounted (steps ++ [step]) next.world.memory.secrets := by
    rw [same]
    exact .kept before (fun actor claim volume returned =>
      unreturned volume ((returns actor claim volume).mp returned).2) untouched
  cases course with
  | secretPut => exact .put before
  | secretDropped => exact .dropped before
  | provisioned acts course =>
      rw [after_store, inMemory] at course
      rcases course.publishes with ⟨_, _, _, record, _, key, publishes, rfl, _, free, memory⟩
      have published := Accounted.published before ((returns _ _ _).mpr ⟨rfl, rfl⟩) rfl
        (free rfl) publishes.reports publishes.encoded
      exact memory ▸ published
  | unprovisioned acts course =>
      exact keeps (congrArg Memory.secrets course.memory_of_error) nofun rfl
  | attempted presents acts read course =>
      refine keeps (congrArg Memory.secrets course.memory_eq) (fun volume => ?_)
        (Step.touchesSecrets_of_actor? (actor?_of_presented presents))
      cases course <;> exact nofun
  | strange asked => exact keeps rfl nofun (Step.touchesSecrets_of_actor? asked)
  | unread presents =>
      exact keeps rfl nofun (Step.touchesSecrets_of_actor? (actor?_of_presented presents))
  | _ => exact keeps rfl nofun rfl

theorem accounted_after (inMemory : run.store = .memory) (steps : List Step) :
    run.Accounted steps (run.after steps).world.memory.secrets := by
  induction steps using List.reverseRecOn with
  | nil => exact .start
  | append_singleton steps step induction => exact induction.concat inMemory

/-- At every point of a lifecycle all secrets in memory are accounted for, and an attempt
that fails or that deletes a volume leaves secrets and classes as they were. -/
theorem secrets_accounted (descriptions : List Description) (world : World) (steps : List Step) :
    let run := Run.start .memory descriptions world
    run.world.memory = world.memory
      ∧ (∀ number, run.Accounted (steps.take number)
        (run.after (steps.take number)).world.memory.secrets)
      ∧ ∀ number, ∀ event ∈ (run.history steps)[number]?, event.1.isFruitless event.2.result →
        (run.after (steps.take (number + 1))).world.memory
          = (run.after (steps.take number)).world.memory := by
  intro run
  refine ⟨makeProvisioners_memory world descriptions, fun number => accounted_after rfl _, ?_⟩
  rintro number ⟨step, report⟩ happened fruitless
  exact (course_of_history happened).memory_eq fruitless

end Run

end ShareProvisioner
