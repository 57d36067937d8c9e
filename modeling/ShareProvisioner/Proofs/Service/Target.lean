import ShareProvisioner.Proofs.Lifecycle.Ownership
import ShareProvisioner.Proofs.Provisioner.Target
import ShareProvisioner.Proofs.Service.Course

/-!
# No run without a user

Over all steps of a lifecycle and all requests to the service, the agent is run for a user
with a name.  A volume of the provisioner's own that records no user is refused before
anything is asked.  One that records a share without a name is not: the agent is then told
to destroy a share of that name.
-/

namespace ShareProvisioner

open Agent (Invocation)

namespace Run

variable {run : Run} {steps : List Step} {number actor : Nat} {invocation : Invocation}

/-- Whether a step of a history hands over an object. -/
def HandsAt (run : Run) (steps : List Step) (number : Nat) (manifest : List (Text × Json)) : Prop :=
  ∃ step actor, steps[number]? = some step
    ∧ (run.after (steps.take number)).presented? step = some (actor, manifest)

theorem Ran.aims (ran : run.Ran steps number actor invocation) :
    ∃ provisioner share user, run.provisioners[actor]? = some provisioner
      ∧ provisioner.Aims (run.HandsAt steps number) invocation share user := by
  rcases ran with ⟨⟨step, report⟩, happened, asked, called⟩
  have course := course_of_history happened
  have is := (getElem?_history.mp happened).1
  rw [← after_provisioners run (steps.take number)]
  rcases course.launches_of_call called with
    ⟨_, _, provisioner, _, _, rfl, acts, launches, _⟩
      | ⟨other, manifest, provisioner, volume, _, _, presents, acts, read, destroys⟩
  · cases asked
    exact ⟨provisioner, _, _, acts, launches.aims⟩
  · cases asked.symm.trans (actor?_of_presented presents)
    have isHanded : run.HandsAt steps number manifest := ⟨step, actor, is, presents⟩
    rcases destroys.aims isHanded read with ⟨share, user, aims⟩
    exact ⟨provisioner, share, user, acts, aims⟩

end Run

namespace Service

theorem exchange_aims {provisioner : Option Provisioner} {store : Store} {world : World}
    {request : Request} {invocation : Invocation}
    (called : .agent invocation ∈ (exchange provisioner store world request).calls) :
    ∃ server share user, provisioner = some server
      ∧ server.Aims request.Hands invocation share user := by
  have course := answer_course provisioner store world.quiet request
  change _ ∈ (Action.runIn world.quiet (answer provisioner store request)).2.calls at called
  generalize (Action.runIn world.quiet (answer provisioner store request)).2 = after
    at course called
  cases course with
  | idle => cases called
  | provisioned serves course =>
      rcases course.launches_of_call rfl called with ⟨⟨_, _, launches⟩, -⟩
      exact ⟨_, _, _, serves, launches.aims⟩
  | deleted serves isHanded read course =>
      rcases course.destroys_of_call rfl called with ⟨_, _, destroys⟩
      rcases destroys.aims isHanded read with ⟨share, user, aims⟩
      exact ⟨_, share, user, serves, aims⟩

/-- Each run of the agent is aimed at a share and a user with a name, in every lifecycle and
for every request, and can only lack a share's name if it is to destroy what an object handed
over records. A volume of the provisioner's own without a user is refused with nothing done.
One whose share has no name has the agent destroy that share, if nothing else is amiss. -/
theorem agent_runs_for_named_user (store : Store) :
    (∀ (descriptions : List Description) (world : World) (steps : List Step) (number actor : Nat)
        (invocation : Invocation),
        let run := Run.start store descriptions world
        run.Ran steps number actor invocation →
        ∃ provisioner share user, run.provisioners[actor]? = some provisioner
          ∧ provisioner.Aims (run.HandsAt steps number) invocation share user
          ∧ user ≠ [] ∧ (share = [] → invocation.Destroys [] user))
      ∧ (∀ (provisioner : Option Provisioner) (world : World) (requests : List Request),
        List.Forall₂ (fun request exchange => ∀ invocation, .agent invocation ∈ exchange.calls →
            ∃ server share user, provisioner = some server
              ∧ server.Aims request.Hands invocation share user
              ∧ user ≠ [] ∧ (share = [] → invocation.Destroys [] user))
          requests (serve provisioner store world requests).1)
      ∧ ∀ (provisioner : Provisioner) (volume : Volume) (world : World),
        (Ownership.verify volume provisioner.identity = .owned →
            volume.grantedUser.isTruthy = false →
            Action.runIn world (provisioner.delete store volume)
              = (.error (.declared (.badVolume volume.name .noUser)), world))
          ∧ ((∃ user invocation, invocation.Destroys [] user ∧ .agent invocation ∈
                (Action.runIn world.quiet (provisioner.delete store volume)).2.calls)
            ↔ ∃ user parameters connection,
              provisioner.Condemns store volume world.quiet [] user parameters connection) := by
  refine ⟨?_, ?_, ?_⟩
  · intro descriptions world steps number actor invocation run ran
    rcases ran.aims with ⟨provisioner, share, user, acts, aims⟩
    exact ⟨provisioner, share, user, acts, aims, aims.user_ne_nil,
      fun nameless => (nameless ▸ aims).destroys_of_nameless⟩
  · intro provisioner world requests
    refine serve_forall (fun world request invocation called => ?_) world requests
    rcases exchange_aims called with ⟨server, share, user, serves, aims⟩
    exact ⟨server, share, user, serves, aims, aims.user_ne_nil,
      fun nameless => (nameless ▸ aims).destroys_of_nameless⟩
  · intro provisioner volume world
    constructor
    · intro owned userless
      have own := Ownership.verify_eq_owned_iff.mp owned
      exact (Provisioner.Settles.userless own.1 own.2 userless).runIn_delete store world
    · constructor
      · rintro ⟨user, invocation, destroys, called⟩
        exact ⟨user, (Provisioner.runs_agent_iff rfl).mp ⟨invocation, called, destroys⟩⟩
      · rintro ⟨user, condemned⟩
        rcases (Provisioner.runs_agent_iff rfl).mpr condemned with ⟨invocation, called, destroys⟩
        exact ⟨user, invocation, destroys, called⟩

/-- The object of a volume whose share has no name. -/
def namelessManifest : List (Text × Json) :=
  [("metadata", .object [
      ("name", .text "pv"),
      ("annotations", .object [
        (AnnotationKey.identity.name, .text "one"),
        (AnnotationKey.share.name, .text [])])]),
    ("spec", .object [
      ("storageClassName", .text "fast"),
      ("cephfs", .object [("user", .text "u")])])]

def namelessDestruction : Invocation :=
  { Run.sampleDestruction with arguments := Agent.defaultPath :: Agent.words .destroy [] "u" }

/-- The agent is told to destroy a share without a name. -/
theorem nameless_share_destroyed :
    Run.sample.Ran [.delete 0 namelessManifest] 0 0 namelessDestruction
      ∧ namelessDestruction.arguments = [Agent.defaultPath, "-r", "-n", [], "-u", "u"] := by
  decide +kernel

theorem agent_runs_for_named_user_sample :
    Run.sample.Ran [.delete 0 namelessManifest] 0 0 namelessDestruction
      ∧ ∃ provisioner share user, Run.sample.provisioners[0]? = some provisioner
        ∧ provisioner.Aims (Run.sample.HandsAt [.delete 0 namelessManifest] 0) namelessDestruction
          share user
        ∧ user ≠ [] ∧ (share = [] → namelessDestruction.Destroys [] user) := by
  have ran : Run.sample.Ran [.delete 0 namelessManifest] 0 0 namelessDestruction := by
    decide +kernel
  exact ⟨ran, (agent_runs_for_named_user .memory).1 _ _ _ 0 0 namelessDestruction ran⟩

end Service

end ShareProvisioner
