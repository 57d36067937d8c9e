import Mathlib.Data.List.Forall2
import ShareProvisioner.Proofs.Lifecycle.History
import ShareProvisioner.Proofs.Service.Answer
import ShareProvisioner.Service.Api

/-!
# The service as a lifecycle

A well-formed request to provision or to delete is one step of a lifecycle with the
provisioner of the service.  Serving a list of such requests makes the calls of the steps,
leaves the world that they leave, and answers each request with the result of its step.
-/

namespace ShareProvisioner

/-- Whether what a step asks of a provisioner holds no lone surrogate. -/
def Step.IsScalar : Step → Prop
  | provision _ claim => claim.IsScalar
  | delete _ manifest => (Json.object manifest).isScalar = true
  | _ => True

namespace Service

/-! ## Corresponding requests and answers -/

/-- The step that a well-formed request asks for. -/
inductive Request.Asks (actor : Nat) : Request → Step → Prop
  | provision {body : Octets} {members : List (Text × Json)} {claim : Claim}
      (read : readBody body = .members members) (accepted : claimOf members = .ok claim) :
      Asks actor ⟨"POST", "/v1/volumes", body⟩ (.provision actor claim)
  | delete {body : Octets} {members manifest : List (Text × Json)}
      (read : readBody body = .members members) (accepted : manifestOf members = .ok manifest) :
      Asks actor ⟨"POST", "/v1/volumes/delete", body⟩ (.delete actor manifest)

def errorObject (code : Text) (cause : Failure.Cause) : Json :=
  .object [
    ("status", .text "error"),
    ("error", .object [
      ("code", .text code),
      ("message", .text cause.message),
      ("retryable", .bool cause.kind.isRetryable),
      ("details", .object [("type", .text cause.kind.name)])])]

/-- The answer that tells the result of a step. -/
inductive Answer.Tells : StepResult → Answer → Prop
  | volume (volume : Volume) :
      Tells (.volume volume) ⟨201, .object [
        ("status", .text "ok"),
        ("data", .object [("volume", volume.toJson), ("manifest", volume.manifest)])]⟩
  | deleted :
      Tells (.deletion .deleted) ⟨200, .object [
        ("status", .text "ok"),
        ("data", .object [("deleted", .bool true)])]⟩
  | ignored (reason : Text) :
      Tells (.deletion (.ignored reason)) ⟨200, .object [
        ("status", .text "ignored"),
        ("data", .object [("deleted", .bool false), ("reason", .text reason)])]⟩
  | invalid {cause : Failure.Cause} (kind : cause.kind.isA .invalidRequest = true) :
      Tells (.failed (.declared cause)) ⟨400, errorObject "VALIDATION_ERROR" cause⟩
  | unowned {cause : Failure.Cause} (kind : cause.kind.isA .ownershipNotFound = true) :
      Tells (.failed (.declared cause)) ⟨409, errorObject "OWNERSHIP_NOT_FOUND" cause⟩
  | dependency {cause : Failure.Cause} (kind : cause.kind.isA .dependency = true) :
      Tells (.failed (.declared cause)) ⟨503, errorObject "DEPENDENCY_ERROR" cause⟩
  | agent {cause : Failure.Cause} (kind : cause.kind.isA .agentFailed = true) :
      Tells (.failed (.declared cause)) ⟨502, errorObject "AGENT_ERROR" cause⟩
  | unexpected (fault : Failure.Fault) :
      Tells (.failed (.unexpected fault)) ⟨500, .object [
        ("status", .text "error"),
        ("error", .object [
          ("code", .text "INTERNAL_ERROR"),
          ("message", .text "Internal server error"),
          ("retryable", .bool true),
          ("details", .object [])])]⟩

/-- Whether an exchange makes the calls of a step and tells its result. -/
structure Exchange.Matches (exchange : Exchange) (report : Report) : Prop where
  calls : exchange.calls = report.calls
  answer : exchange.answer.Tells report.result

theorem Answer.tells_ofCause (cause : Failure.Cause) :
    Answer.Tells (.failed (.declared cause)) (.ofCause cause) := by
  cases cause with
  | unknownParameter | duplicateParameter | missingParameter | selectorGiven | badVolume =>
      exact .invalid rfl
  | secretNotFound | secretEmpty | secretInvalid | secretExists | classNotFound | classMissing
  | apiFailed | apiUnreachable | apiTimeout => exact .dependency rfl
  | agentFailed | badRecord => exact .agent rfl
  | ownershipNotFound => exact .unowned rfl

theorem tells_reply {α : Type} {result : Except Failure α} {tell : α → StepResult}
    {build : α → Answer}
    (values : ∀ value, result = .ok value →
      (build value).body.isSendable = true ∧ (build value).Tells (tell value))
    (refusals : ∀ cause, result = .error (.declared cause) → cause.IsScalar) :
    (reply (result.map build)).Tells (StepResult.ofOutcome tell result) := by
  cases result with
  | ok value =>
      have good := values value rfl
      rw [Except.map, reply, Answer.sent_of_isSendable good.1]
      exact good.2
  | error failure =>
      rw [Except.map, reply]
      cases failure with
      | declared cause =>
          have sendable := Answer.isSendable_ofCause (refusals cause rfl)
          rw [Answer.ofFailure, Answer.sent_of_isSendable sendable]
          exact Answer.tells_ofCause cause
      | unexpected fault => exact .unexpected fault

theorem sendable_and_tells {provisioner : Provisioner} {volume : Volume} {world after : World}
    {deletion : Deletion}
    (course : provisioner.DeleteCourse .memory volume world (.ok deletion) after) :
    (Answer.ofDeletion deletion).body.isSendable = true
      ∧ (Answer.ofDeletion deletion).Tells (.deletion deletion) := by
  cases course with
  | foreign verified => exact ⟨by simp [Answer.ofDeletion, Answer.result], .ignored _⟩
  | deleted destroys succeeds => exact ⟨by simp [Answer.ofDeletion, Answer.result], .deleted⟩

/-! ## One request -/

section Requests

variable {provisioner : Provisioner} {store : Store} {world : World} {body : Octets}
  {members : List (Text × Json)}

theorem runIn_answer_provision {claim : Claim} (read : readBody body = .members members)
    (accepted : claimOf members = .ok claim) :
    Action.runIn world (answer (some provisioner) store ⟨"POST", "/v1/volumes", body⟩)
      = ((Action.runIn world (provisioner.provision store claim)).1.map .provisioned,
        (Action.runIn world (provisioner.provision store claim)).2) := by
  have offered : Operation.at? "/v1/volumes" = some .provision := by decide
  have checked : answer (some provisioner) store ⟨"POST", "/v1/volumes", body⟩
      = provisionVolume (some provisioner) store claim := by
    rw [answer, offered]
    simp only [Operation.method, if_pos, perform, withBody, read, accepted]
  rw [checked, provisionVolume, configured, Action.runIn_bind_ok (Action.runIn_pure _),
    Action.runIn_bind_pure]

theorem answer_delete (provisioner : Option Provisioner) {manifest : List (Text × Json)}
    (read : readBody body = .members members) (accepted : manifestOf members = .ok manifest) :
    answer provisioner store ⟨"POST", "/v1/volumes/delete", body⟩
      = deleteVolume provisioner store manifest := by
  have offered : Operation.at? "/v1/volumes/delete" = some .delete := by decide
  rw [answer, offered]
  simp only [Operation.method, if_pos, perform, withBody, read, accepted]

theorem runIn_answer_delete {manifest : List (Text × Json)}
    (read : readBody body = .members members) (accepted : manifestOf members = .ok manifest) :
    let deletion : Action Deletion := do
      let volume ← Action.lift (Volume.ofManifest manifest)
      provisioner.delete store volume
    Action.runIn world (answer (some provisioner) store ⟨"POST", "/v1/volumes/delete", body⟩)
      = ((Action.runIn world deletion).1.map .ofDeletion, (Action.runIn world deletion).2) := by
  intro deletion
  have regrouped : deleteVolume (some provisioner) store manifest
      = deletion >>= fun value => pure (.ofDeletion value) := by
    simp only [deleteVolume, configured, deletion, bind_assoc, pure_bind]
  rw [answer_delete _ read accepted, regrouped, Action.runIn_bind_pure]

end Requests

/-! ## Lists of requests -/

section Lists

variable {provisioner : Provisioner} {run : Run} {actor number : Nat} {request : Request}
  {step : Step}

/-- What serving a single request amounts to. -/
def exchange (provisioner : Option Provisioner) (store : Store) (world : World)
    (request : Request) : Exchange :=
  let outcome := Action.runIn world.quiet (answer provisioner store request)
  ⟨reply outcome.1, outcome.2.calls⟩

theorem serve_cons (provisioner : Option Provisioner) (store : Store) (world : World)
    (request : Request) (requests : List Request) :
    serve provisioner store world (request :: requests)
      = (exchange provisioner store world request
          :: (serve provisioner store
            (Action.runIn world.quiet (answer provisioner store request)).2 requests).1,
        (serve provisioner store
          (Action.runIn world.quiet (answer provisioner store request)).2 requests).2) := rfl

/-- Serving a well-formed request is performing the step that it asks for. -/
theorem exchange_matches (asks : request.Asks actor step)
    (acts : run.provisioners[actor]? = some provisioner) (inMemory : run.store = .memory)
    (provisionerScalar : provisioner.IsScalar) (worldScalar : run.world.IsScalar)
    (stepScalar : step.IsScalar) :
    (exchange (some provisioner) .memory run.world request).Matches (run.perform number step).1
      ∧ (Action.runIn run.world.quiet (answer (some provisioner) .memory request)).2
          = (run.perform number step).2.world
      ∧ (run.perform number step).2.world.IsScalar := by
  have quietScalar : run.world.quiet.IsScalar := worldScalar.of_same rfl rfl
  cases asks with
  | @provision body members claim read accepted =>
      have performed := Run.perform_provision run number claim acts
      rw [inMemory] at performed
      have course := provisioner.provision_course .memory claim run.world.quiet
      rw [exchange, runIn_answer_provision read accepted, performed.1, performed.2]
      refine ⟨⟨rfl, tells_reply ?_ ?_⟩, rfl, course.isScalar_after quietScalar⟩
      · intro volume provisioned
        rw [provisioned] at course
        have issues := course.issues stepScalar quietScalar
        exact ⟨Answer.isSendable_provisioned issues provisionerScalar stepScalar, .volume volume⟩
      · intro cause refused
        rw [refused] at course
        exact course.isScalar_refusal provisionerScalar stepScalar quietScalar
  | @delete body members manifest read accepted =>
      rw [Run.perform_of_presented run number rfl, Run.act_eq, Run.deleteObject,
        Run.byActor_of_acts _ acts, inMemory, exchange, runIn_answer_delete read accepted]
      cases volumeRead : Volume.ofManifest manifest with
      | error failure =>
          rw [Action.runIn_bind_error (Action.runIn_lift _)]
          have told : (reply ((Except.error failure).map Answer.ofDeletion)).Tells
              (StepResult.ofOutcome .deletion (.error failure)) := by
            refine tells_reply ?_ ?_
            · intro deletion deleted
              cases deleted
            · rintro cause ⟨rfl⟩
              exact Volume.isScalar_of_refused stepScalar volumeRead
          exact ⟨⟨rfl, told⟩, rfl, quietScalar⟩
      | ok volume =>
          rw [Action.runIn_bind_ok (Action.runIn_lift _)]
          have volumeScalar := Volume.ofManifest_isScalar stepScalar volumeRead
          have course := provisioner.delete_course .memory volume run.world.quiet
          refine ⟨⟨rfl, tells_reply ?_ ?_⟩, rfl, course.isScalar_after quietScalar⟩
          · intro deletion deleted
            rw [deleted] at course
            exact sendable_and_tells course
          · intro cause refused
            rw [refused] at course
            exact course.isScalar_refusal provisionerScalar volumeScalar quietScalar

/-- Serving well-formed requests is performing the steps that they ask for: with the same
calls for each, with answers that tell the results, and with the same world in the end. -/
theorem serve_refines_performAll {requests : List Request} {steps : List Step}
    (asks : List.Forall₂ (Request.Asks actor) requests steps)
    (acts : run.provisioners[actor]? = some provisioner) (inMemory : run.store = .memory)
    (provisionerScalar : provisioner.IsScalar) (worldScalar : run.world.IsScalar)
    (stepsScalar : ∀ step ∈ steps, step.IsScalar) (number : Nat) :
    List.Forall₂ Exchange.Matches (serve (some provisioner) .memory run.world requests).1
        (run.performAll number steps).1
      ∧ (serve (some provisioner) .memory run.world requests).2
          = (run.performAll number steps).2.world := by
  induction asks generalizing run number with
  | nil => exact ⟨.nil, rfl⟩
  | @cons request step requests steps asks rest induction =>
      have course := run.perform_course number step
      rcases exchange_matches asks acts inMemory provisionerScalar worldScalar
        (stepsScalar step (by simp)) with ⟨matching, same, afterScalar⟩
      have onward := induction (course.provisioners_eq ▸ acts) (course.store_eq.trans inMemory)
        afterScalar (fun later member => stepsScalar later (List.mem_cons_of_mem _ member))
        (number + 1)
      rw [serve_cons, same]
      exact ⟨.cons matching onward.1, onward.2⟩

end Lists

/-! ### A sample -/

def claimBody : Octets :=
  Utf8.ofString ("\x7b\"pv_name\":\"pv\",\"namespace\":\"team\",\"capacity\":\"1Gi\","
    ++ "\"parameters\":\x7b\"monitors\":\"m\",\"adminSecretName\":\"admin\"\x7d,"
    ++ "\"storage_class\":\"fast\"\x7d")

def claimMembers : List (Text × Json) :=
  [("pv_name", .text "pv"), ("namespace", .text "team"), ("capacity", .text "1Gi"),
    ("parameters", .object [("monitors", .text "m"), ("adminSecretName", .text "admin")]),
    ("storage_class", .text "fast")]

def manifestBody : Octets :=
  Utf8.ofString ("\x7b\"manifest\":\x7b\"metadata\":\x7b\"name\":\"pv\",\"annotations\":\x7b"
    ++ "\"cephFSProvisionerIdentity\":\"one\",\"cephShare\":\"s\"\x7d\x7d,"
    ++ "\"spec\":\x7b\"storageClassName\":\"fast\","
    ++ "\"cephfs\":\x7b\"user\":\"u\"\x7d\x7d\x7d\x7d")

def sampleManifest : List (Text × Json) :=
  [("metadata", .object [
      ("name", .text "pv"),
      ("annotations", .object [
        (AnnotationKey.identity.name, .text "one"),
        (AnnotationKey.share.name, .text "s")])]),
    ("spec", .object [
      ("storageClassName", .text "fast"),
      ("cephfs", .object [("user", .text "u")])])]

/-- A claim is satisfied, and a volume of the same provisioner is deleted. -/
def sampleRequests : List Request :=
  [⟨"POST", "/v1/volumes", claimBody⟩, ⟨"POST", "/v1/volumes/delete", manifestBody⟩]

def requestedSteps : List Step :=
  [.provision 0 Run.sampleClaim, .delete 0 sampleManifest]

theorem sampleRequests_ask : List.Forall₂ (Request.Asks 0) sampleRequests requestedSteps := by
  have claimRead : readBody claimBody = .members claimMembers := by decide +kernel
  have claimAccepted : claimOf claimMembers = .ok Run.sampleClaim := by decide +kernel
  have manifestRead : readBody manifestBody = .members [("manifest", .object sampleManifest)] := by
    decide +kernel
  exact .cons (.provision claimRead claimAccepted) (.cons (.delete manifestRead rfl) .nil)

theorem isScalar_sampleWorld : Run.sampleWorld.IsScalar where
  classes := by
    change ∀ entry ∈ Run.sampleWorld.memory.classes,
      ∀ value ∈ entry.2.map Prod.snd, value.isScalar = true
    decide +kernel
  runs := by
    intro outcome member
    refine ⟨?_, ?_⟩
    · rintro code reason rfl
      simp [Run.sampleWorld] at member
    · have reports : ∀ outcome ∈ Run.sampleWorld.runs, ∀ record ∈ outcome.record?,
          record.path.isScalar = true ∧ record.user.isScalar = true := by decide +kernel
      intro record reported
      exact reports outcome member record (Agent.Outcome.record?_eq_some_iff.mpr reported)

theorem isScalar_requestedSteps : ∀ step ∈ requestedSteps, step.IsScalar := by
  intro step member
  simp only [requestedSteps, List.mem_cons, List.not_mem_nil, or_false] at member
  rcases member with rfl | rfl
  · exact ⟨rfl, rfl, rfl, rfl, by decide, by rintro className ⟨rfl⟩; rfl⟩
  · change (Json.object sampleManifest).isScalar = true
    decide

theorem serve_refines_performAll_sample :
    List.Forall₂ Exchange.Matches
        (serve (some { identity := "one" }) .memory Run.sample.world sampleRequests).1
        (Run.sample.performAll 0 requestedSteps).1
      ∧ (Run.sample.performAll 0 requestedSteps).1.map (·.calls.length) = [3, 3] := by
  have provisionerScalar : Provisioner.IsScalar { identity := "one" } := ⟨rfl, rfl, rfl⟩
  have served := @serve_refines_performAll _ Run.sample 0 _ _ sampleRequests_ask rfl rfl
    provisionerScalar isScalar_sampleWorld isScalar_requestedSteps 0
  exact ⟨served.1, by decide +kernel⟩

end Service

end ShareProvisioner
