import ShareProvisioner.Proofs.Service.Refinement

/-!
# The course of a request

Whatever a client sends, the service makes one attempt to satisfy a claim, or one to delete
a volume whose object came with the request, or it asks nothing of the outside.
-/

namespace ShareProvisioner.Service

/-- Whether the body of a request hands over an object. -/
def Request.Hands (request : Request) (manifest : List (Text × Json)) : Prop :=
  ∃ members, readBody request.body = .members members ∧ manifestOf members = .ok manifest

/-- What answering a request does to the world. -/
inductive AnswerCourse (provisioner : Option Provisioner) (store : Store) (world : World)
    (request : Request) : World → Prop
  | idle : AnswerCourse provisioner store world request world
  | provisioned {server : Provisioner} {claim : Claim} {result : Except Failure Volume}
      {after : World} (serves : provisioner = some server)
      (course : server.ProvisionCourse store claim world result after) :
      AnswerCourse provisioner store world request after
  | deleted {server : Provisioner} {manifest : List (Text × Json)} {volume : Volume}
      {result : Except Failure Deletion} {after : World} (serves : provisioner = some server)
      (isHanded : request.Hands manifest) (read : Volume.ofManifest manifest = .ok volume)
      (course : server.DeleteCourse store volume world result after) :
      AnswerCourse provisioner store world request after

section Requests

variable {provisioner : Option Provisioner} {store : Store} {world : World} {request : Request}

/-- Only the operation behind a body that passes its check can do anything. -/
theorem withBody_course {α : Type} {check : List (Text × Json) → Checked α}
    {go : α → Action Answer}
    (passes : ∀ members value, readBody request.body = .members members →
      check members = .ok value →
      AnswerCourse provisioner store world request (Action.runIn world (go value)).2) :
    AnswerCourse provisioner store world request
      (Action.runIn world (withBody request.body check go)).2 := by
  unfold withBody
  cases read : readBody request.body with
  | unreadable => exact .idle
  | complaints complaints => exact .idle
  | members members =>
      dsimp only
      cases checked : check members with
      | error complaints => exact .idle
      | ok value => exact passes members value read checked

theorem provisionVolume_course (claim : Claim) :
    AnswerCourse provisioner store world request
      (Action.runIn world (provisionVolume provisioner store claim)).2 := by
  cases provisioner with
  | none => exact .idle
  | some server =>
      have course := server.provision_course store claim world
      rw [provisionVolume, configured, pure_bind, Action.runIn_bind_pure]
      exact .provisioned rfl course

theorem deleteVolume_course {manifest : List (Text × Json)} (isHanded : request.Hands manifest) :
    AnswerCourse provisioner store world request
      (Action.runIn world (deleteVolume provisioner store manifest)).2 := by
  unfold deleteVolume
  cases read : Volume.ofManifest manifest with
  | error failure =>
      rw [Action.runIn_bind_error (Action.runIn_lift _)]
      exact .idle
  | ok volume =>
      rw [Action.runIn_bind_ok (Action.runIn_lift _)]
      cases provisioner with
      | none => exact .idle
      | some server =>
          have course := server.delete_course store volume world
          rw [configured, pure_bind, Action.runIn_bind_pure]
          exact .deleted rfl isHanded read course

theorem answer_course (provisioner : Option Provisioner) (store : Store) (world : World)
    (request : Request) :
    AnswerCourse provisioner store world request
      (Action.runIn world (answer provisioner store request)).2 := by
  unfold answer
  cases Operation.at? request.path with
  | none =>
      dsimp only
      split
      · exact .idle
      · exact .idle
  | some operation =>
      dsimp only
      split
      · cases operation with
        | provision => exact withBody_course fun _ claim _ _ => provisionVolume_course claim
        | delete =>
            exact withBody_course fun members _ read accepted =>
              deleteVolume_course ⟨members, read, accepted⟩
        | identity =>
            cases provisioner with
            | none => exact .idle
            | some server => exact .idle
      · exact .idle

end Requests

/-- What holds of every request in every world without calls holds of each that is served. -/
theorem serve_forall {provisioner : Option Provisioner} {store : Store}
    {holds : Request → Exchange → Prop}
    (each : ∀ world request, holds request (exchange provisioner store world request))
    (world : World) (requests : List Request) :
    List.Forall₂ holds requests (serve provisioner store world requests).1 := by
  induction requests generalizing world with
  | nil => exact .nil
  | cons request requests induction =>
      rw [serve_cons]
      exact .cons (each world request) (induction _)

end ShareProvisioner.Service
