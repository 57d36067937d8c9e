import Mathlib.Data.List.Nodup
import ShareProvisioner.Proofs.Entries
import ShareProvisioner.Proofs.Lifecycle.Secrets
import ShareProvisioner.Proofs.Parameters
import ShareProvisioner.Proofs.Provisioner.Names

/-!
# Fresh names

Identifiers are taken in order, for provisioners first and then by the attempts to satisfy
claims, and no identifier is taken twice.  Every name that a lifecycle makes spells out an
identifier taken for it, so no name is made twice, however often an attempt is repeated.
-/

namespace ShareProvisioner

open Agent (Invocation)

/-- The identifiers taken from one point of a lifecycle to a later one. -/
def World.takenUntil (world later : World) : List Text :=
  (List.range' world.nextId (later.nextId - world.nextId)).map Action.identifierText

namespace World

variable {world middle later : World}

theorem mem_takenUntil {identifier : Text} :
    identifier ∈ world.takenUntil later
      ↔ ∃ number, (world.nextId ≤ number ∧ number < later.nextId)
          ∧ identifier = Action.identifierText number := by
  unfold takenUntil
  simp only [List.mem_map, List.mem_range'_1]
  constructor
  · rintro ⟨number, range, rfl⟩
    exact ⟨number, by omega, rfl⟩
  · rintro ⟨number, range, rfl⟩
    exact ⟨number, by omega, rfl⟩

theorem takenUntil_append (first : world.nextId ≤ middle.nextId)
    (second : middle.nextId ≤ later.nextId) :
    world.takenUntil middle ++ middle.takenUntil later = world.takenUntil later := by
  have ends : world.nextId + (middle.nextId - world.nextId) = middle.nextId := by omega
  have lengths : middle.nextId - world.nextId + (later.nextId - middle.nextId)
      = later.nextId - world.nextId := by omega
  have joined := @List.range'_append_1 world.nextId (middle.nextId - world.nextId)
    (later.nextId - middle.nextId)
  rw [ends, lengths] at joined
  rw [takenUntil, takenUntil, takenUntil, ← joined, List.map_append]

theorem nodup_takenUntil (world later : World) : (world.takenUntil later).Nodup :=
  List.Nodup.map Action.identifierText_injective (List.nodup_range' 1)

/-- Identifiers taken later are different ones. -/
theorem not_mem_takenUntil_of_mem {identifier : Text} (before : identifier ∈ world.takenUntil middle) :
    identifier ∉ middle.takenUntil later := by
  intro after
  rcases mem_takenUntil.mp before with ⟨number, range, rfl⟩
  rcases mem_takenUntil.mp after with ⟨other, otherRange, same⟩
  have equal := Action.identifierText_injective same
  omega

end World

/-! ## Identities -/

/-- Whether a description leaves it to the provisioner to take an identity. -/
def Description.isAnonymous (description : Description) : Bool :=
  match description.identity with
  | none | some [] => true
  | some _ => false

/-- The identities of those provisioners whose descriptions give none. -/
def Run.generatedIdentities (run : Run) (descriptions : List Description) : List Text :=
  ((descriptions.zip run.provisioners).filter (·.1.isAnonymous)).map (·.2.identity)

theorem Provisioner.runIn_make (description : Description) (world : World) :
    ∃ provisioner after,
      Action.runIn world (make description.identity description.name description.agentPath)
        = (.ok provisioner, after)
      ∧ world.nextId ≤ after.nextId
      ∧ world.takenUntil after = if description.isAnonymous then [provisioner.identity] else [] := by
  rcases description with ⟨identity, name, agentPath⟩
  rcases identity with _ | _ | ⟨first, rest⟩
  · exact ⟨_, _, rfl, by simp, by simp [World.takenUntil, Description.isAnonymous]⟩
  · exact ⟨_, _, rfl, by simp, by simp [World.takenUntil, Description.isAnonymous]⟩
  · exact ⟨_, _, rfl, by simp, by simp [World.takenUntil, Description.isAnonymous]⟩

namespace Run

theorem makeProvisioners_taken (world : World) (descriptions : List Description) :
    let made := makeProvisioners world descriptions
    world.nextId ≤ made.2.nextId
      ∧ ((descriptions.zip made.1).filter (·.1.isAnonymous)).map (·.2.identity)
        = world.takenUntil made.2 := by
  induction descriptions generalizing world with
  | nil => simp [makeProvisioners, World.takenUntil]
  | cons description rest induction =>
      rcases Provisioner.runIn_make description world with ⟨provisioner, after, ran, first, taken⟩
      rcases induction after with ⟨later, others⟩
      simp only [makeProvisioners, ran]
      refine ⟨by omega, ?_⟩
      rw [← World.takenUntil_append first later, taken, List.zip_cons_cons]
      cases anonymous : description.isAnonymous with
      | true => simp [anonymous, others]
      | false => simp [anonymous, others]

variable {run : Run} {number : Nat} {step : Step} {report : Report} {after : Run}

def calls (run : Run) (steps : List Step) : List Call :=
  (run.history steps).flatMap (·.2.calls)

theorem calls_concat (run : Run) (steps : List Step) (step : Step) :
    run.calls (steps ++ [step])
      = run.calls steps ++ ((run.after steps).perform steps.length step).1.calls := by
  simp [calls, history_concat]

theorem nextId_le_after (run : Run) (steps : List Step) :
    run.world.nextId ≤ (run.after steps).world.nextId := by
  have grows := nextId_after_take_mono run steps (Nat.zero_le steps.length)
  simpa using grows

theorem StepCourse.named (course : StepCourse run number step report after) (label : Label) :
    report.calls.filterMap (Call.named? label) = []
      ∨ ∃ identifier ∈ run.world.takenUntil after.world,
        report.calls.filterMap (Call.named? label) = [.text (label.spell identifier)] := by
  cases course with
  | provisioned acts course | unprovisioned acts course =>
      rcases course.named rfl label with nothing | ⟨taken, name⟩
      · exact .inl nothing
      · refine .inr ⟨_, World.mem_takenUntil.mpr ?_, name⟩
        rw [World.quiet_nextId] at taken
        cases label with
        | share => exact ⟨_, by simp [taken], rfl⟩
        | user | secret => exact ⟨_, by simp [taken], rfl⟩
  | attempted presents acts read course => exact .inl (course.named rfl label)
  | _ => exact .inl rfl

/-- What a whole lifecycle names is named after identifiers taken during it, each name
after one of its own. -/
theorem named_calls (run : Run) (steps : List Step) (label : Label) :
    ((run.calls steps).filterMap (Call.named? label)).Nodup
      ∧ ∀ name ∈ (run.calls steps).filterMap (Call.named? label),
        ∃ identifier ∈ run.world.takenUntil (run.after steps).world,
          name = .text (label.spell identifier) := by
  induction steps using List.reverseRecOn with
  | nil => exact ⟨List.nodup_nil, by simp [calls, history]⟩
  | append_singleton steps step induction =>
      have course := perform_course (run.after steps) steps.length step
      have divided := World.takenUntil_append (nextId_le_after run steps) course.nextId_le
      rw [calls_concat, List.filterMap_append, after_concat, ← divided]
      have earlier (more : List Text) : ∀ name ∈ (run.calls steps).filterMap (Call.named? label),
          ∃ identifier ∈ run.world.takenUntil (run.after steps).world ++ more,
            name = .text (label.spell identifier) := by
        intro name member
        rcases induction.2 name member with ⟨identifier, taken, isName⟩
        exact ⟨identifier, List.mem_append_left _ taken, isName⟩
      rcases course.named label with nothing | ⟨identifier, taken, isName⟩
      · rw [nothing, List.append_nil]
        exact ⟨induction.1, earlier _⟩
      · rw [isName]
        constructor
        · refine List.nodup_append.mpr ⟨induction.1, List.nodup_singleton _, ?_⟩
          intro name member other isOther same
          rcases induction.2 name member with ⟨before, takenBefore, rfl⟩
          have equal : before = identifier := by
            rw [List.mem_singleton.mp isOther] at same
            exact label.spell_injective (Json.text.inj same)
          exact World.not_mem_takenUntil_of_mem takenBefore (equal ▸ taken)
        · intro name member
          rcases List.mem_append.mp member with before | now
          · exact earlier _ name before
          · exact ⟨identifier, List.mem_append_right _ taken, List.mem_singleton.mp now⟩

end Run

/-! ## Free names -/

/-- Whether a name has the form of those that are given to secrets. -/
def Provisioner.IsSecretName (name : Text) : Prop :=
  ∃ identifier, name = secretName (userName identifier)

/-- Whether no secret bears a name that is made from a later identifier. -/
def World.SparesLater (world : World) : Prop :=
  ∀ namespaceName number, world.nextId ≤ number →
    world.memory.secrets.find?
      (namespaceName, Label.secret.spell (Action.identifierText number)) = none

namespace World.SparesLater

variable {world after : World}

theorem of_not_isSecretName
    (unreserved : ∀ entry ∈ world.memory.secrets, ¬Provisioner.IsSecretName entry.1.2) :
    world.SparesLater := by
  intro namespaceName number later
  cases found : world.memory.secrets.find?
      (namespaceName, Label.secret.spell (Action.identifierText number)) with
  | none => rfl
  | some data =>
      rcases Entries.mem_of_find? found with ⟨key, same, member⟩
      have isKey : key = _ := eq_of_beq same
      exact absurd ⟨_, by rw [isKey]; rfl⟩ (unreserved _ member)

theorem of_same (spares : world.SparesLater) (same : after.memory.secrets = world.memory.secrets)
    (grows : world.nextId ≤ after.nextId) : after.SparesLater := by
  intro namespaceName number later
  rw [same]
  exact spares namespaceName number (Nat.le_trans grows later)

theorem of_insert (spares : world.SparesLater) {namespaceName name : Text} {data : SecretData}
    (same : after.memory.secrets = world.memory.secrets.insert (namespaceName, name) data)
    (grows : world.nextId ≤ after.nextId)
    (other : ∀ number, after.nextId ≤ number →
      name ≠ Label.secret.spell (Action.identifierText number)) : after.SparesLater := by
  intro space number later
  rw [same, Entries.find?_insert, if_neg]
  · exact spares space number (Nat.le_trans grows later)
  · intro equal
    exact other number later (congrArg Prod.snd (eq_of_beq equal))

theorem of_erase (spares : world.SparesLater) {key : Text × Text}
    (same : after.memory.secrets = world.memory.secrets.erase key)
    (grows : world.nextId ≤ after.nextId) : after.SparesLater := by
  intro namespaceName number later
  rw [same, Entries.find?_erase, spares namespaceName number (Nat.le_trans grows later), ite_self]

end World.SparesLater

namespace Provisioner

variable {provisioner : Provisioner} {claim : Claim} {world after : World}

theorem ProvisionCourse.sparesLater {result : Except Failure Volume}
    (course : ProvisionCourse provisioner .memory claim world result after)
    (spares : world.SparesLater) : after.SparesLater := by
  cases result with
  | error failure =>
      exact spares.of_same (congrArg Memory.secrets course.memory_of_error) course.nextId_le
  | ok volume =>
      have grows := course.nextId_le
      cases course with
      | published publishes written free =>
          refine spares.of_insert rfl grows fun number later same => ?_
          have equal := Action.identifierText_injective (Label.secret.spell_injective same)
          have taken : world.nextId + 2 ≤ number := later
          omega

/-- Where the name of the new secret is free, an attempt cannot meet a conflict. -/
theorem ProvisionCourse.ne_secretExists {failure : Failure}
    (course : ProvisionCourse provisioner .memory claim world (.error failure) after)
    (spares : world.SparesLater) (secret : SecretReference) :
    failure ≠ .declared (.secretExists secret) := by
  rintro rfl
  cases course with
  | parametersRefused unselective refused => cases Parameters.isRefusal_of_resolve refused
  | unconnected admits refused => simpa using Store.refusal_of_connect refused
  | agentFailed launches failed =>
      rcases Agent.Outcome.agentFailed_of_error failed with ⟨problem, output, equal⟩
      cases equal
  | recordRefused launches printed refused =>
      rcases Agent.Record.refusal_of_parse refused with ⟨problem, equal⟩
      cases equal
  | pathRefused launches reports refused => cases Agent.refusal_of_exportPath refused
  | unpublished publishes refused =>
      rw [publishedSecret, Store.createSecret_of_free] at refused
      · cases refused
      · exact spares claim.namespaceName (world.nextId + 1) (Nat.le_succ _)

end Provisioner

namespace Run

variable {run : Run} {steps : List Step}

theorem StepCourse.sparesLater {number : Nat} {step : Step} {report : Report} {after : Run}
    (course : StepCourse run number step report after) (inMemory : run.store = .memory)
    (spares : run.world.SparesLater)
    (honest : ∀ namespaceName name data, step = .putSecret namespaceName name data →
      ¬Provisioner.IsSecretName name) : after.world.SparesLater := by
  have grows := course.nextId_le
  cases course with
  | provisioned acts course | unprovisioned acts course =>
      rw [inMemory] at course
      exact course.sparesLater spares
  | attempted presents acts read course =>
      exact spares.of_same (congrArg Memory.secrets course.memory_eq) grows
  | secretPut =>
      refine spares.of_insert rfl grows fun number _ same => ?_
      exact honest _ _ _ rfl ⟨_, same⟩
  | secretDropped => exact spares.of_erase rfl grows
  | _ => exact spares.of_same rfl grows

theorem StepCourse.ne_secretExists {number actor : Nat} {claim : Claim} {report : Report}
    {after : Run} (course : StepCourse run number (.provision actor claim) report after)
    (inMemory : run.store = .memory) (spares : run.world.SparesLater) (secret : SecretReference) :
    report.result ≠ .failed (.declared (.secretExists secret)) := by
  intro conflict
  cases course with
  | strange => cases conflict
  | provisioned => cases conflict
  | unprovisioned acts course =>
      cases conflict
      rw [inMemory] at course
      exact course.ne_secretExists spares secret rfl
  | unread presents | attempted presents => cases presents

theorem sparesLater_after (inMemory : run.store = .memory) (spares : run.world.SparesLater)
    (honest : ∀ namespaceName name data, .putSecret namespaceName name data ∈ steps →
      ¬Provisioner.IsSecretName name) : (run.after steps).world.SparesLater := by
  induction steps using List.reverseRecOn with
  | nil => exact spares
  | append_singleton steps step induction =>
      rw [after_concat]
      have before := induction fun namespaceName name data member =>
        honest namespaceName name data (List.mem_append_left _ member)
      refine (perform_course (run.after steps) steps.length step).sparesLater
        ((after_store run steps).trans inMemory) before fun namespaceName name data isStep => ?_
      exact honest namespaceName name data (by simp [isStep])

/-- In a lifecycle no share, no user and no secret gets a name that another one has or
that spells out the identity which a provisioner took.  Where nobody else uses names of
the form that secrets get, no attempt to satisfy a claim fails for a name that is taken. -/
theorem names_never_repeat (store : Store) (descriptions : List Description) (world : World)
    (steps : List Step) :
    let run := Run.start store descriptions world
    let taken := run.world.takenUntil (run.after steps).world
    (∀ label, ((run.calls steps).filterMap (Call.named? label)).Nodup
        ∧ ∀ name ∈ (run.calls steps).filterMap (Call.named? label),
          ∃ identifier ∈ taken, name = .text (label.spell identifier))
      ∧ (run.generatedIdentities descriptions ++ taken).Nodup
      ∧ (store = .memory →
        (∀ entry ∈ world.memory.secrets, ¬Provisioner.IsSecretName entry.1.2) →
        (∀ namespaceName name data, .putSecret namespaceName name data ∈ steps →
          ¬Provisioner.IsSecretName name) →
        ∀ (number actor : Nat) claim report,
          (run.history steps)[number]? = some (.provision actor claim, report) →
          ∀ secret, report.result ≠ .failed (.declared (.secretExists secret))) := by
  intro run taken
  refine ⟨named_calls run steps, ?_, ?_⟩
  · rcases makeProvisioners_taken world descriptions with ⟨grows, generated⟩
    have joined : run.generatedIdentities descriptions ++ taken
        = world.takenUntil (run.after steps).world := by
      rw [← World.takenUntil_append grows (nextId_le_after run steps), ← generated]
      rfl
    rw [joined]
    exact World.nodup_takenUntil _ _
  · intro inMemory unreserved honest number actor claim report happened secret
    have same : run.world.memory = world.memory := makeProvisioners_memory world descriptions
    have free : run.world.SparesLater := World.SparesLater.of_not_isSecretName (same ▸ unreserved)
    have spares : (run.after (steps.take number)).world.SparesLater :=
      sparesLater_after inMemory free fun namespaceName name data member =>
        honest namespaceName name data (List.mem_of_mem_take member)
    exact (course_of_history happened).ne_secretExists ((after_store _ _).trans inMemory) spares
      secret

/-- Two provisioners take their identities, a claim is satisfied, and an attempt to satisfy
it once more fails because the agent then reports nothing. -/
def retriedSteps : List Step :=
  [.provision 0 sampleClaim, .putSecret "team" "spare" [], .provision 1 sampleClaim]

theorem names_never_repeat_sample :
    let run := Run.start .memory [{}, {}] sampleWorld
    let taken := run.world.takenUntil (run.after retriedSteps).world
    ((run.calls retriedSteps).filterMap (Call.named? .share)).length = 2
      ∧ ((run.calls retriedSteps).filterMap (Call.named? .share)).Nodup
      ∧ (run.generatedIdentities [{}, {}] ++ taken).Nodup
      ∧ (∀ entry ∈ sampleWorld.memory.secrets, ¬Provisioner.IsSecretName entry.1.2)
      ∧ (∀ namespaceName name data, .putSecret namespaceName name data ∈ retriedSteps →
        ¬Provisioner.IsSecretName name)
      ∧ ∃ report, (run.history retriedSteps)[2]? = some (.provision 1 sampleClaim, report)
        ∧ ∀ secret, report.result ≠ .failed (.declared (.secretExists secret)) := by
  intro run taken
  have fresh := names_never_repeat .memory [{}, {}] sampleWorld retriedSteps
  have unlike {name : Text} (starts : name.head? ≠ some (.char 'c')) :
      ¬Provisioner.IsSecretName name := by
    rintro ⟨identifier, rfl⟩
    exact starts rfl
  have unreserved : ∀ entry ∈ sampleWorld.memory.secrets,
      ¬Provisioner.IsSecretName entry.1.2 := by
    intro entry member
    rw [List.mem_singleton.mp member]
    exact unlike (by decide)
  have honest : ∀ namespaceName name data, .putSecret namespaceName name data ∈ retriedSteps →
      ¬Provisioner.IsSecretName name := by
    intro namespaceName name data member
    have isSpare : namespaceName = "team" ∧ name = "spare" ∧ data = [] := by
      simpa [retriedSteps] using member
    rw [isSpare.2.1]
    exact unlike (by decide)
  obtain ⟨report, happened⟩ : ∃ report, (run.history retriedSteps)[2]?
      = some (.provision 1 sampleClaim, report) := ⟨_, getElem?_history.mpr ⟨rfl, rfl⟩⟩
  refine ⟨?_, (fresh.1 .share).1, fresh.2.1, unreserved, honest, report, happened, ?_⟩
  · decide +kernel
  · exact fresh.2.2 rfl unreserved honest 2 1 sampleClaim report happened

end Run

end ShareProvisioner
