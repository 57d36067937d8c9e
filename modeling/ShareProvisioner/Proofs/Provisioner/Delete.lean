import ShareProvisioner.Proofs.Provisioner.Provision

/-!
# The course of deleting

Whose a volume is gets settled before anything is asked of the outside.  For a volume of
its own a provisioner reads the class, then the secret that the class refers to, and
then runs the agent once.  The rules of `DeleteCourse` list all points at which this can
end.
-/

namespace ShareProvisioner

namespace World

def classRead (world : World) (store : Store) (name : Json) : World :=
  store.asked world (store.readingClass name)

def destroyed (world : World) (store : Store) (name : Json) (secret : SecretReference)
    (invocation : Agent.Invocation) : World :=
  ((world.classRead store name).connected store secret).launched invocation

section Fields

variable (world : World) (store : Store) (name : Json) (secret : SecretReference)
  (invocation : Agent.Invocation)

@[simp] theorem classRead_calls :
    (world.classRead store name).calls = world.calls ++ [store.readingClass name] := rfl

@[simp] theorem classRead_memory : (world.classRead store name).memory = world.memory := rfl

@[simp] theorem classRead_nextId : (world.classRead store name).nextId = world.nextId := rfl

@[simp] theorem destroyed_calls :
    (world.destroyed store name secret invocation).calls
      = world.calls ++ [store.readingClass name, store.readingSecret secret,
        .agent invocation] := by
  simp [destroyed, launched]

@[simp] theorem destroyed_memory :
    (world.destroyed store name secret invocation).memory = world.memory := rfl

@[simp] theorem destroyed_nextId :
    (world.destroyed store name secret invocation).nextId = world.nextId := rfl

end Fields

end World

namespace Provisioner

section Course

variable (provisioner : Provisioner) (store : Store) (volume : Volume) (world : World)

/-- Whether a volume says all that is needed to seek the share behind it. -/
structure Seeks : Prop where
  owned : Ownership.verify volume provisioner.identity = .owned
  user : volume.grantedUser.isTruthy = true
  className : volume.className.isTruthy = true

structure Finds (parameters : ClusterParameters) : Prop extends Seeks provisioner volume where
  found : ∃ storageClass,
    (Action.runIn world (store.readClass volume.className)).1 = .ok storageClass
      ∧ Parameters.resolve storageClass.parameters = .ok parameters

/-- Whether an attempt comes to run the agent. -/
structure Destroys (parameters : ClusterParameters) (connection : Connection)
    (invocation : Agent.Invocation) : Prop
    extends Finds provisioner store volume world parameters where
  connected : (Action.runIn (world.classRead store volume.className)
    (store.connect parameters)).1 = .ok connection
  invoked : Agent.invocation provisioner.agentPath .destroy volume.shareName
    volume.grantedUser connection = .ok invocation

/-- How an attempt to delete a volume goes: with which result, and to which world. -/
inductive DeleteCourse : Except Failure Deletion → World → Prop
  | unstamped (verified : Ownership.verify volume provisioner.identity = .notFound) :
      DeleteCourse (.error (.declared (.ownershipNotFound
        (if volume.ownerIdentity = .null then AnnotationKey.identity else .share).name
        volume.name))) world
  | foreign (verified : Ownership.verify volume provisioner.identity = .notMine) :
      DeleteCourse (.ok (.ignored "identity annotation on PV does not match ours")) world
  | userless (owned : Ownership.verify volume provisioner.identity = .owned)
      (userless : volume.grantedUser.isTruthy = false) :
      DeleteCourse (.error (.declared (.badVolume volume.name .noUser))) world
  | classless (owned : Ownership.verify volume provisioner.identity = .owned)
      (user : volume.grantedUser.isTruthy = true)
      (classless : volume.className.isTruthy = false) :
      DeleteCourse (.error (.declared (.classMissing volume.name))) world
  | classUnread {failure} (seeks : Seeks provisioner volume)
      (refused : (Action.runIn world (store.readClass volume.className)).1 = .error failure) :
      DeleteCourse (.error failure) (world.classRead store volume.className)
  | parametersRefused {storageClass failure} (seeks : Seeks provisioner volume)
      (read : (Action.runIn world (store.readClass volume.className)).1 = .ok storageClass)
      (refused : Parameters.resolve storageClass.parameters = .error failure) :
      DeleteCourse (.error failure) (world.classRead store volume.className)
  | unconnected {parameters failure}
      (finds : Finds provisioner store volume world parameters)
      (refused : (Action.runIn (world.classRead store volume.className)
        (store.connect parameters)).1 = .error failure) :
      DeleteCourse (.error failure)
        ((world.classRead store volume.className).connected store parameters.secret)
  | unlaunched {parameters connection fault}
      (finds : Finds provisioner store volume world parameters)
      (connected : (Action.runIn (world.classRead store volume.className)
        (store.connect parameters)).1 = .ok connection)
      (refused : Agent.invocation provisioner.agentPath .destroy volume.shareName
        volume.grantedUser connection = .error fault) :
      DeleteCourse (.error (.unexpected fault))
        ((world.classRead store volume.className).connected store parameters.secret)
  | agentFailed {parameters connection invocation cause}
      (destroys : Destroys provisioner store volume world parameters connection invocation)
      (failed : world.nextOutcome.output provisioner.agentPath .destroy
        volume.shareName.display = .error cause) :
      DeleteCourse (.error (.declared cause))
        (world.destroyed store volume.className parameters.secret invocation)
  | deleted {parameters connection invocation}
      (destroys : Destroys provisioner store volume world parameters connection invocation)
      (succeeds : world.nextOutcome.Succeeds) :
      DeleteCourse (.ok .deleted)
        (world.destroyed store volume.className parameters.secret invocation)

end Course

/-! ## Running the agent -/

section Agent

variable {provisioner : Provisioner} {world : World} {share user : Json}
  {connection : Connection}

theorem runIn_destroyShare_error {fault : Failure.Fault}
    (refused : Agent.invocation provisioner.agentPath .destroy share user connection
      = .error fault) :
    Action.runIn world (provisioner.destroyShare share user connection)
      = (.error (.unexpected fault), world) := by
  unfold destroyShare
  rw [Action.runIn_bind_error (runIn_runAgent_error refused)]

theorem runIn_destroyShare_ok {invocation : Agent.Invocation}
    (invoked : Agent.invocation provisioner.agentPath .destroy share user connection
      = .ok invocation) :
    Action.runIn world (provisioner.destroyShare share user connection)
      = (((world.nextOutcome.output provisioner.agentPath .destroy share.display).mapError
          .declared).map fun _ => (), world.launched invocation) := by
  unfold destroyShare
  rw [Action.runIn_bind, runIn_runAgent_ok invoked]
  cases world.nextOutcome.output provisioner.agentPath .destroy share.display with
  | error cause => rfl
  | ok output => rfl

end Agent

/-! ## The course -/

/-- Every attempt to delete a volume goes by the rules. -/
theorem delete_course (provisioner : Provisioner) (store : Store) (volume : Volume)
    (world : World) :
    DeleteCourse provisioner store volume world
      (Action.runIn world (provisioner.delete store volume)).1
      (Action.runIn world (provisioner.delete store volume)).2 := by
  -- Each way out is one rule; what is not indented follows the attempt that goes on.
  unfold delete
  cases verified : Ownership.verify volume provisioner.identity with
  | notFound => exact .unstamped verified
  | notMine => exact .foreign verified
  | owned =>
  dsimp only
  cases user : volume.grantedUser.isTruthy with
  | false => exact .userless verified user
  | true =>
  rw [if_neg (by simp)]
  cases named : volume.className.isTruthy with
  | false => exact .classless verified user named
  | true =>
  rw [if_neg (by simp)]
  have seeks : Seeks provisioner volume := ⟨verified, user, named⟩
  have asked := Store.runIn_readClass_world world store volume.className
  cases read : (Action.runIn world (store.readClass volume.className)).1 with
  | error failure =>
      rw [Action.runIn_bind_error (Prod.ext read asked)]
      exact .classUnread seeks read
  | ok storageClass =>
  have classRead : Action.runIn world (store.readClass volume.className)
      = (.ok storageClass, world.classRead store volume.className) := Prod.ext read asked
  rw [Action.runIn_bind_ok classRead]
  cases resolved : Parameters.resolve storageClass.parameters with
  | error failure =>
      rw [Action.runIn_bind_error (Action.runIn_lift _)]
      exact .parametersRefused seeks read resolved
  | ok parameters =>
  rw [Action.runIn_bind_ok (Action.runIn_lift _)]
  have finds : Finds provisioner store volume world parameters :=
    ⟨seeks, storageClass, read, resolved⟩
  have secretAsked := Store.runIn_connect_world (world.classRead store volume.className) store
    parameters
  cases connected : (Action.runIn (world.classRead store volume.className)
      (store.connect parameters)).1 with
  | error failure =>
      rw [Action.runIn_bind_error (Prod.ext connected secretAsked)]
      exact .unconnected finds connected
  | ok connection =>
  have secretRead : Action.runIn (world.classRead store volume.className)
      (store.connect parameters) = (.ok connection,
        (world.classRead store volume.className).connected store parameters.secret) :=
    Prod.ext connected secretAsked
  rw [Action.runIn_bind_ok secretRead]
  cases invoked : Agent.invocation provisioner.agentPath .destroy volume.shareName
      volume.grantedUser connection with
  | error fault =>
      rw [Action.runIn_bind_error (runIn_destroyShare_error invoked)]
      exact .unlaunched finds connected invoked
  | ok invocation =>
  have destroys : Destroys provisioner store volume world parameters connection invocation :=
    ⟨finds, connected, invoked⟩
  have launched : Action.runIn ((world.classRead store volume.className).connected store
      parameters.secret)
        (provisioner.destroyShare volume.shareName volume.grantedUser connection)
      = (((world.nextOutcome.output provisioner.agentPath .destroy
          volume.shareName.display).mapError .declared).map fun _ => (),
        world.destroyed store volume.className parameters.secret invocation) :=
    runIn_destroyShare_ok invoked
  cases printed : world.nextOutcome.output provisioner.agentPath .destroy
      volume.shareName.display with
  | error cause =>
      rw [printed] at launched
      rw [Action.runIn_bind_error launched]
      exact .agentFailed destroys printed
  | ok output =>
      rw [printed] at launched
      rw [Action.runIn_bind_ok launched]
      rcases Agent.Outcome.output_eq_ok_iff.mp printed with ⟨out, err, exited, _⟩
      exact .deleted destroys ⟨out, err, exited⟩

/-! ## What an attempt leaves alone -/

section Unchanged

variable {provisioner : Provisioner} {store : Store} {volume : Volume} {world after : World}
  {result : Except Failure Deletion}

theorem DeleteCourse.nextId_eq
    (course : DeleteCourse provisioner store volume world result after) :
    after.nextId = world.nextId := by
  cases course <;> simp

theorem DeleteCourse.memory_eq
    (course : DeleteCourse provisioner store volume world result after) :
    after.memory = world.memory := by
  cases course <;> simp

/-- The agent is run only to destroy what the volume records. -/
theorem DeleteCourse.destroys_of_call {invocation : Agent.Invocation}
    (course : DeleteCourse provisioner store volume world result after)
    (quiet : world.calls = []) (called : .agent invocation ∈ after.calls) :
    ∃ parameters connection,
      Destroys provisioner store volume world parameters connection invocation := by
  cases course with
  | agentFailed destroys failed | deleted destroys succeeds =>
      simp [quiet] at called
      exact ⟨_, _, called ▸ destroys⟩
  | _ => simp [quiet] at called

end Unchanged

/-! ## How an attempt must end -/

section Determined

variable {provisioner : Provisioner} {store : Store} {volume : Volume} {world after : World}
  {result : Except Failure Deletion} {parameters other : ClusterParameters}

theorem Finds.eq (finds : Finds provisioner store volume world parameters)
    (otherFinds : Finds provisioner store volume world other) : parameters = other := by
  rcases finds.found with ⟨storageClass, read, resolved⟩
  rcases otherFinds.found with ⟨otherClass, otherRead, otherResolved⟩
  cases read.symm.trans otherRead
  cases resolved.symm.trans otherResolved
  rfl

theorem Destroys.eq {connection otherConnection : Connection}
    {invocation otherInvocation : Agent.Invocation}
    (destroys : Destroys provisioner store volume world parameters connection invocation)
    (others : Destroys provisioner store volume world other otherConnection otherInvocation) :
    parameters = other ∧ connection = otherConnection ∧ invocation = otherInvocation := by
  cases destroys.toFinds.eq others.toFinds
  cases destroys.connected.symm.trans others.connected
  cases destroys.invoked.symm.trans others.invoked
  exact ⟨rfl, rfl, rfl⟩

/-- Once the agent can be run, only its outcome decides. -/
theorem DeleteCourse.of_destroys {connection : Connection} {invocation : Agent.Invocation}
    (course : DeleteCourse provisioner store volume world result after)
    (destroys : Destroys provisioner store volume world parameters connection invocation) :
    after = world.destroyed store volume.className parameters.secret invocation
      ∧ (result = .ok .deleted ∧ world.nextOutcome.Succeeds
        ∨ ∃ failure output, result = .error (.declared (.agentFailed failure output))
          ∧ ¬world.nextOutcome.Succeeds) := by
  rcases destroys.found with ⟨storageClass, read, resolved⟩
  cases course with
  | unstamped verified => exact nomatch destroys.owned.symm.trans verified
  | foreign verified => exact nomatch destroys.owned.symm.trans verified
  | userless owned userless => exact nomatch destroys.user.symm.trans userless
  | classless owned user classless => exact nomatch destroys.className.symm.trans classless
  | classUnread seeks refused => exact nomatch read.symm.trans refused
  | parametersRefused seeks otherRead refused =>
      cases read.symm.trans otherRead
      exact nomatch resolved.symm.trans refused
  | unconnected finds refused =>
      cases destroys.toFinds.eq finds
      exact nomatch destroys.connected.symm.trans refused
  | unlaunched finds connected refused =>
      cases destroys.toFinds.eq finds
      cases destroys.connected.symm.trans connected
      exact nomatch destroys.invoked.symm.trans refused
  | agentFailed others failed =>
      rcases destroys.eq others with ⟨rfl, rfl, rfl⟩
      rcases Agent.Outcome.agentFailed_of_error failed with ⟨failure, output, rfl⟩
      exact ⟨rfl, .inr ⟨failure, output, rfl, Agent.Outcome.not_succeeds_of_error failed⟩⟩
  | deleted others succeeds =>
      rcases destroys.eq others with ⟨rfl, rfl, rfl⟩
      exact ⟨rfl, .inl ⟨rfl, succeeds⟩⟩

theorem DeleteCourse.of_classless
    (course : DeleteCourse provisioner store volume world result after)
    (owned : Ownership.verify volume provisioner.identity = .owned)
    (user : volume.grantedUser.isTruthy = true) (classless : volume.className.isTruthy = false) :
    result = .error (.declared (.classMissing volume.name)) := by
  have unsought (seeks : Seeks provisioner volume) : False :=
    nomatch seeks.className.symm.trans classless
  cases course with
  | unstamped verified => exact nomatch owned.symm.trans verified
  | foreign verified => exact nomatch owned.symm.trans verified
  | userless _ userless => exact nomatch user.symm.trans userless
  | classless => rfl
  | classUnread seeks refused => exact (unsought seeks).elim
  | parametersRefused seeks read refused => exact (unsought seeks).elim
  | unconnected finds refused => exact (unsought finds.toSeeks).elim
  | unlaunched finds connected refused => exact (unsought finds.toSeeks).elim
  | agentFailed destroys failed => exact (unsought destroys.toSeeks).elim
  | deleted destroys succeeds => exact (unsought destroys.toSeeks).elim

/-- A class whose parameters are refused ends the attempt with the refusal. -/
theorem DeleteCourse.of_refused {storageClass : StorageClass} {failure : Failure}
    (course : DeleteCourse provisioner store volume world result after)
    (seeks : Seeks provisioner volume)
    (read : (Action.runIn world (store.readClass volume.className)).1 = .ok storageClass)
    (refused : Parameters.resolve storageClass.parameters = .error failure) :
    result = .error failure := by
  have unfound {found : ClusterParameters}
      (finds : Finds provisioner store volume world found) : False := by
    obtain ⟨otherClass, otherRead, resolved⟩ := finds.found
    cases read.symm.trans otherRead
    exact nomatch refused.symm.trans resolved
  cases course with
  | unstamped verified => exact nomatch seeks.owned.symm.trans verified
  | foreign verified => exact nomatch seeks.owned.symm.trans verified
  | userless owned userless => exact nomatch seeks.user.symm.trans userless
  | classless owned user classless => exact nomatch seeks.className.symm.trans classless
  | classUnread others unread => exact nomatch read.symm.trans unread
  | parametersRefused others otherRead otherRefused =>
      cases read.symm.trans otherRead
      cases refused.symm.trans otherRefused
      rfl
  | unconnected finds unconnected => exact (unfound finds).elim
  | unlaunched finds connected unlaunched => exact (unfound finds).elim
  | agentFailed destroys failed => exact (unfound destroys.toFinds).elim
  | deleted destroys succeeds => exact (unfound destroys.toFinds).elim

end Determined

end Provisioner

end ShareProvisioner
