import ShareProvisioner.Proofs.Provisioner.Decision
import ShareProvisioner.Proofs.Provisioner.Fault
import ShareProvisioner.Proofs.Volume.Manifest

/-!
# What the agent is aimed at

Each run of the agent is aimed at a share and a user.  To create, both are named anew.  To
destroy, they are the ones that an object handed over records under the provisioner's own
stamp, and then the user has a name; a share that is recorded without one is destroyed all
the same.
-/

namespace ShareProvisioner.Provisioner

open Agent (Invocation)

/-- Whether a run of the agent is aimed at a share and a user, where only the objects that
`handed` holds of can be handed over. -/
inductive Aims (provisioner : Provisioner) (handed : List (Text × Json) → Prop)
    (invocation : Invocation) (share user : Text) : Prop
  | anew (number : Nat) (isShare : share = shareName (Action.identifierText number))
      (isUser : user = userName (Action.identifierText (number + 1)))
      (creates : invocation.Creates share user) :
      Aims provisioner handed invocation share user
  | recorded {manifest : List (Text × Json)} {volume : Volume} (isHanded : handed manifest)
      (read : Volume.ofManifest manifest = .ok volume)
      (stamped : volume.IsStamped provisioner.identity share)
      (granted : volume.grantedUser = .text user) (named : user ≠ [])
      (destroys : invocation.Destroys share user) :
      Aims provisioner handed invocation share user

section Aims

variable {provisioner : Provisioner} {handed : List (Text × Json) → Prop}
  {invocation : Invocation} {share user : Text} {store : Store} {world : World}
  {parameters : ClusterParameters} {connection : Connection}

theorem Aims.user_ne_nil (aims : provisioner.Aims handed invocation share user) : user ≠ [] := by
  cases aims with
  | anew number isShare isUser creates =>
      rw [isUser]
      exact List.append_ne_nil_of_left_ne_nil (List.cons_ne_nil _ _) _
  | recorded isHanded read stamped granted named destroys => exact named

/-- A share without a name can only be meant to be destroyed. -/
theorem Aims.destroys_of_nameless (aims : provisioner.Aims handed invocation [] user) :
    invocation.Destroys [] user := by
  cases aims with
  | anew number isShare isUser creates => cases isShare
  | recorded isHanded read stamped granted named destroys => exact destroys

theorem Launches.aims {claim : Claim}
    (launches : provisioner.Launches store claim world parameters connection invocation) :
    provisioner.Aims handed invocation world.nextShare world.nextUser :=
  .anew world.nextId rfl rfl launches.creates

theorem Seeks.user_ne_nil {volume : Volume} (seeks : provisioner.Seeks volume)
    (granted : volume.grantedUser = .text user) : user ≠ [] := by
  have named := seeks.user
  rw [granted] at named
  rintro rfl
  cases named

theorem Destroys.aims {manifest : List (Text × Json)} {volume : Volume}
    (destroys : provisioner.Destroys store volume world parameters connection invocation)
    (isHanded : handed manifest) (read : Volume.ofManifest manifest = .ok volume) :
    ∃ share user, provisioner.Aims handed invocation share user := by
  rcases destroys.texts with ⟨share, user, isShare, isUser, destroyed⟩
  have stamped : volume.IsStamped provisioner.identity share :=
    ⟨(Ownership.verify_eq_owned_iff.mp destroys.owned).1, isShare⟩
  have named := destroys.toSeeks.user_ne_nil isUser
  exact ⟨share, user, .recorded isHanded read stamped isUser named destroyed⟩

end Aims

/-! ## Destroying what a volume records -/

section Destruction

variable {provisioner : Provisioner} {store : Store} {volume : Volume} {world : World}
  {share user : Text}

theorem exists_destruction_iff {connection : Connection} :
    (∃ invocation, Agent.invocation provisioner.agentPath .destroy (.text share) (.text user)
        connection = .ok invocation)
      ↔ provisioner.CanTell connection ∧ share.IsPassable ∧ user.IsPassable := by
  have options : ∀ option ∈ [("-r" : Text), "-n", "-u"], option.IsPassable := by decide
  rw [Agent.exists_invocation_iff]
  simp only [Agent.words, List.forall_mem_cons] at options ⊢
  constructor
  · rintro ⟨⟨path, -, -, sharePassable, -, userPassable, -⟩, settings⟩
    exact ⟨⟨path, settings⟩, sharePassable, userPassable⟩
  · rintro ⟨⟨path, settings⟩, sharePassable, userPassable⟩
    exact ⟨⟨path, options.1, options.2.1, sharePassable, options.2.2.1, userPassable, by simp⟩, settings⟩

/-- Whether nothing keeps the agent from being run to destroy a share and a user. -/
structure Condemns (provisioner : Provisioner) (store : Store) (volume : Volume) (world : World)
    (share grantee : Text) (parameters : ClusterParameters) (connection : Connection) : Prop
    extends Finds provisioner store volume world parameters where
  shareName : volume.shareName = .text share
  grantedUser : volume.grantedUser = .text grantee
  connected : (Action.runIn (world.classRead store volume.className)
    (store.connect parameters)).1 = .ok connection
  told : provisioner.CanTell connection ∧ share.IsPassable ∧ grantee.IsPassable

/-- Deleting a volume runs the agent on a share just if the volume records this share and a
user that has a name, and if its class and the cluster can be reached. -/
theorem runs_agent_iff (quiet : world.calls = []) :
    (∃ invocation, .agent invocation ∈
          (Action.runIn world (provisioner.delete store volume)).2.calls
        ∧ invocation.Destroys share user)
      ↔ ∃ parameters connection,
        Condemns provisioner store volume world share user parameters connection := by
  have course := provisioner.delete_course store volume world
  constructor
  · rintro ⟨invocation, called, destroyed⟩
    rcases course.destroys_of_call quiet called with ⟨parameters, connection, destroys⟩
    rcases destroys.texts with ⟨otherShare, otherUser, isShare, isUser, target⟩
    rcases destroyed.target_eq target with ⟨rfl, rfl⟩
    have invoked := destroys.invoked
    rw [isShare, isUser] at invoked
    exact ⟨parameters, connection, destroys.toFinds, isShare, isUser, destroys.connected,
      exists_destruction_iff.mp ⟨invocation, invoked⟩⟩
  · rintro ⟨parameters, connection, condemns⟩
    rcases exists_destruction_iff.mpr condemns.told with ⟨invocation, invoked⟩
    have target := Agent.arguments_of_invocation invoked
    rw [← condemns.shareName, ← condemns.grantedUser] at invoked
    have destroys : Destroys provisioner store volume world parameters connection invocation :=
      ⟨condemns.toFinds, condemns.connected, invoked⟩
    refine ⟨invocation, ?_, _, target⟩
    rw [(course.of_destroys destroys).1, World.destroyed_calls]
    simp

end Destruction

end ShareProvisioner.Provisioner
