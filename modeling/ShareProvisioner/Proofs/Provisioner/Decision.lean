import ShareProvisioner.Proofs.Provisioner.Names
import ShareProvisioner.Proofs.Volume.Ownership

/-!
# Deciding before acting

What a volume says about itself settles whether its share is to be destroyed at all, and
another provisioner's identity settles it first.  Only if the volume leaves it open are the
class, the secret and the agent asked, in this order, and none of them after one that
failed.
-/

namespace ShareProvisioner.Provisioner

open Agent (Invocation)

variable {provisioner : Provisioner} {store : Store} {volume : Volume} {world : World}
  {result answer : Except Failure Deletion} {parameters : ClusterParameters}
  {connection : Connection} {invocation : Invocation} {secret : SecretReference}

/-- The answers that need no call: what a volume lacks is told, unless it is another's. -/
inductive Settles (provisioner : Provisioner) (volume : Volume) :
    Except Failure Deletion → Prop
  | foreign (stamped : volume.ownerIdentity ≠ .null)
      (others : volume.ownerIdentity ≠ .text provisioner.identity) :
      Settles provisioner volume (.ok (.ignored "identity annotation on PV does not match ours"))
  | unstamped (missing : volume.ownerIdentity = .null) :
      Settles provisioner volume
        (.error (.declared (.ownershipNotFound AnnotationKey.identity.name volume.name)))
  | shareless (own : volume.ownerIdentity = .text provisioner.identity)
      (missing : volume.shareName = .null) :
      Settles provisioner volume
        (.error (.declared (.ownershipNotFound AnnotationKey.share.name volume.name)))
  | userless (own : volume.ownerIdentity = .text provisioner.identity)
      (shared : volume.shareName ≠ .null) (missing : volume.grantedUser.isTruthy = false) :
      Settles provisioner volume (.error (.declared (.badVolume volume.name .noUser)))
  | classless (own : volume.ownerIdentity = .text provisioner.identity)
      (shared : volume.shareName ≠ .null) (granted : volume.grantedUser.isTruthy = true)
      (missing : volume.className.isTruthy = false) :
      Settles provisioner volume (.error (.declared (.classMissing volume.name)))

/-- An answer that a volume settles is given in every world, with nothing done to it. -/
theorem Settles.runIn_delete (settles : Settles provisioner volume answer) (store : Store)
    (world : World) : Action.runIn world (provisioner.delete store volume) = (answer, world) := by
  unfold delete
  cases settles with
  | foreign stamped others =>
      rw [Ownership.verify_eq_notMine_iff.mpr ⟨stamped, others⟩]
      rfl
  | unstamped missing =>
      rw [Ownership.verify_eq_notFound_iff.mpr (.inl missing)]
      dsimp only
      rw [if_pos missing]
      rfl
  | shareless own missing =>
      have stamped : volume.ownerIdentity ≠ .null := by simp [own]
      rw [Ownership.verify_eq_notFound_iff.mpr (.inr ⟨own, missing⟩)]
      dsimp only
      rw [if_neg stamped]
      rfl
  | userless own shared missing =>
      rw [Ownership.verify_eq_owned_iff.mpr ⟨own, shared⟩, missing]
      rfl
  | classless own shared granted missing =>
      rw [Ownership.verify_eq_owned_iff.mpr ⟨own, shared⟩, granted, missing]
      rfl

/-- A volume settles at most one answer. -/
theorem Settles.eq (settles : Settles provisioner volume result)
    (others : Settles provisioner volume answer) : result = answer := by
  have answered := settles.runIn_delete .memory {}
  rw [others.runIn_delete] at answered
  exact (Prod.mk.inj answered).1.symm

theorem Settles.not_seeks (settles : Settles provisioner volume answer) :
    ¬Seeks provisioner volume := by
  intro seeks
  have owned := Ownership.verify_eq_owned_iff.mp seeks.owned
  cases settles with
  | foreign stamped others => exact others owned.1
  | unstamped missing => exact nomatch missing.symm.trans owned.1
  | shareless own missing => exact owned.2 missing
  | userless own shared missing => exact nomatch seeks.user.symm.trans missing
  | classless own shared granted missing => exact nomatch seeks.className.symm.trans missing

/-- The calls of a deletion that nothing cuts short, in their order. -/
def plannedDeletion (store : Store) (volume : Volume) (secret : SecretReference)
    (invocation : Invocation) : List Call :=
  [store.readingClass volume.className, store.readingSecret secret, .agent invocation]

/-- How the calls of a deletion, and its answer, depend on what goes before them. -/
structure DecidesFirst (provisioner : Provisioner) (store : Store) (volume : Volume)
    (world : World) (result : Except Failure Deletion) (made : List Call)
    (secret : SecretReference) (invocation : Invocation) : Prop where
  ordered : made <+: plannedDeletion store volume secret invocation
  settled : ∀ answer, Settles provisioner volume answer → result = answer ∧ made = []
  className : volume.className = if (volume.annotationAt .storageClass).isTruthy then
    volume.annotationAt .storageClass else volume.storageClass
  /-- The secret is the one to which the class refers. -/
  reads : 1 < made.length → ∃ storageClass parameters,
    (Action.runIn world (store.readClass volume.className)).1 = .ok storageClass
      ∧ Parameters.resolve storageClass.parameters = .ok parameters
      ∧ parameters.secret = secret
  /-- The agent is run only on what the volume records, with a key for the cluster. -/
  destroys : 2 < made.length → ∃ data key share user,
    (Action.runIn (world.classRead store volume.className) (store.readSecret secret)).1 = .ok data
      ∧ data.key secret = .ok key
      ∧ volume.shareName = .text share ∧ volume.grantedUser = .text user
      ∧ invocation.arguments = provisioner.agentPath :: Agent.words .destroy share user
  deletes : result = .ok .deleted
    ↔ made = plannedDeletion store volume secret invocation ∧ world.nextOutcome.Succeeds
  writesNothing : ∀ call ∈ made, call.named? .secret = none

private theorem named?_plannedDeletion {call : Call}
    (planned : call ∈ plannedDeletion store volume secret invocation) :
    call.named? .secret = none := by
  simp only [plannedDeletion, List.mem_cons, List.not_mem_nil, or_false] at planned
  rcases planned with rfl | rfl | rfl
  · exact Call.named?_readingClass ..
  · exact Call.named?_readingSecret ..
  · rfl

section Stages

private theorem decidesFirst_settled (settles : Settles provisioner volume result)
    (secret : SecretReference) (invocation : Invocation) :
    DecidesFirst provisioner store volume world result [] secret invocation where
  ordered := List.nil_prefix
  settled answer others := ⟨settles.eq others, rfl⟩
  className := rfl
  reads long := by simp at long
  destroys long := by simp at long
  deletes := by
    constructor
    · rintro rfl
      cases settles
    · intro planned
      exact nomatch planned.1
  writesNothing := by simp

private theorem decidesFirst_cut {failure : Failure} {made rest : List Call}
    (seeks : Seeks provisioner volume)
    (planned : made ++ rest = plannedDeletion store volume secret invocation)
    (short : made.length < 3)
    (reads : 1 < made.length → ∃ parameters, Finds provisioner store volume world parameters
      ∧ parameters.secret = secret) :
    DecidesFirst provisioner store volume world (.error failure) made secret invocation where
  ordered := ⟨rest, planned⟩
  settled answer settles := absurd seeks settles.not_seeks
  className := rfl
  reads long := by
    rcases reads long with ⟨parameters, finds, refers⟩
    rcases finds.found with ⟨storageClass, read, resolved⟩
    exact ⟨storageClass, parameters, read, resolved, refers⟩
  destroys long := absurd long (by omega)
  deletes := by
    constructor
    · intro deleted
      cases deleted
    · intro complete
      rw [complete.1] at short
      simp [plannedDeletion] at short
  writesNothing call member :=
    named?_plannedDeletion (planned ▸ List.mem_append_left rest member)

private theorem decidesFirst_run
    (destroys : Destroys provisioner store volume world parameters connection invocation)
    (agrees : result = .ok .deleted ↔ world.nextOutcome.Succeeds) :
    DecidesFirst provisioner store volume world result
      (plannedDeletion store volume parameters.secret invocation) parameters.secret
      invocation where
  ordered := List.prefix_rfl
  settled answer settles := absurd destroys.toSeeks settles.not_seeks
  className := rfl
  reads _ := by
    rcases destroys.found with ⟨storageClass, read, resolved⟩
    exact ⟨storageClass, parameters, read, resolved, rfl⟩
  destroys _ := by
    rcases Store.connect_eq_ok_iff.mp destroys.connected with ⟨data, key, read, holds, _⟩
    rcases Agent.texts_of_destruction destroys.invoked with ⟨share, user, isShare, isUser, words⟩
    exact ⟨data, key, share, user, read, holds, isShare, isUser, words⟩
  deletes := by simpa using agrees
  writesNothing _ := named?_plannedDeletion

end Stages

/-- Deleting a volume asks nothing while the volume itself settles the answer.  Otherwise it
reads the class, reads the secret and runs the agent, in this order, and stops where one of
these fails. -/
theorem delete_decides_first (provisioner : Provisioner) (store : Store) (volume : Volume)
    (world : World) :
    ∃ made secret invocation,
      (Action.runIn world (provisioner.delete store volume)).2.calls = world.calls ++ made
        ∧ (Action.runIn world (provisioner.delete store volume)).2.memory = world.memory
        ∧ DecidesFirst provisioner store volume world
          (Action.runIn world (provisioner.delete store volume)).1 made secret invocation := by
  have course := delete_course provisioner store volume world
  generalize (Action.runIn world (provisioner.delete store volume)).1 = result at course ⊢
  generalize (Action.runIn world (provisioner.delete store volume)).2 = after at course ⊢
  have unchanged := course.memory_eq
  have settled (settles : Settles provisioner volume result) (same : after = world) :
      ∃ made secret invocation, after.calls = world.calls ++ made ∧ after.memory = world.memory
        ∧ DecidesFirst provisioner store volume world result made secret invocation :=
    ⟨[], ⟨.null, .null⟩, ⟨[], []⟩, by simp [same], unchanged, decidesFirst_settled settles ..⟩
  cases course with
  | unstamped verified =>
      rcases Ownership.verify_eq_notFound_iff.mp verified with missing | ⟨own, missing⟩
      · rw [if_pos missing] at settled ⊢
        exact settled (.unstamped missing) rfl
      · have stamped : volume.ownerIdentity ≠ .null := by simp [own]
        rw [if_neg stamped] at settled ⊢
        exact settled (.shareless own missing) rfl
  | foreign verified =>
      have others := Ownership.verify_eq_notMine_iff.mp verified
      exact settled (.foreign others.1 others.2) rfl
  | userless owned userless =>
      have own := Ownership.verify_eq_owned_iff.mp owned
      exact settled (.userless own.1 own.2 userless) rfl
  | classless owned user classless =>
      have own := Ownership.verify_eq_owned_iff.mp owned
      exact settled (.classless own.1 own.2 user classless) rfl
  | classUnread seeks refused =>
      exact ⟨_, ⟨.null, .null⟩, ⟨[], []⟩, rfl, unchanged,
        decidesFirst_cut seeks rfl (by simp) (by simp)⟩
  | parametersRefused seeks read refused =>
      exact ⟨_, ⟨.null, .null⟩, ⟨[], []⟩, rfl, unchanged,
        decidesFirst_cut seeks rfl (by simp) (by simp)⟩
  | unconnected finds refused =>
      exact ⟨[store.readingClass volume.className, _], _, ⟨[], []⟩, by simp, unchanged,
        decidesFirst_cut finds.toSeeks rfl (by simp) fun _ => ⟨_, finds, rfl⟩⟩
  | unlaunched finds connected refused =>
      exact ⟨[store.readingClass volume.className, _], _, ⟨[], []⟩, by simp, unchanged,
        decidesFirst_cut finds.toSeeks rfl (by simp) fun _ => ⟨_, finds, rfl⟩⟩
  | agentFailed destroys failed =>
      have fails := Agent.Outcome.not_succeeds_of_error failed
      exact ⟨_, _, _, World.destroyed_calls .., unchanged,
        decidesFirst_run destroys (by simp [fails])⟩
  | deleted destroys succeeds =>
      exact ⟨_, _, _, World.destroyed_calls .., unchanged,
        decidesFirst_run destroys (by simp [succeeds])⟩

end ShareProvisioner.Provisioner
