import ShareProvisioner.Proofs.Provisioner.Delete
import ShareProvisioner.Proofs.Provisioner.Provision

/-!
# Names that are given

An attempt to satisfy a claim names a share and a user when it runs the agent, and a secret
when it publishes the user's key.  Deleting a volume names nothing new.
-/

namespace ShareProvisioner

open Agent (Invocation)

/-- The share and the user that an invocation is to create. -/
def Agent.Invocation.creation? (invocation : Invocation) : Option (Text × Text) :=
  match invocation.arguments with
  | [_, shareOption, share, userOption, user] =>
      if shareOption = "-n" ∧ userOption = "-u" then some (share, user) else none
  | _ => none

theorem Agent.Invocation.creation?_eq_some_iff {invocation : Invocation} {share user : Text} :
    invocation.creation? = some (share, user) ↔ invocation.Creates share user := by
  unfold creation? Creates words
  constructor
  · intro found
    split at found
    · next path shareOption _ userOption _ are =>
        split at found
        · next options =>
            cases found
            exact ⟨path, by rw [are, options.1, options.2]⟩
        · cases found
    · cases found
  · rintro ⟨path, are⟩
    simp [are]

theorem Agent.Invocation.Destroys.creation?_eq_none {invocation : Invocation} {share user : Text}
    (destroys : invocation.Destroys share user) : invocation.creation? = none := by
  rcases destroys with ⟨path, are⟩
  simp [creation?, are, words]

/-- The kinds of things that an attempt to satisfy a claim gives names to. -/
inductive Label where
  | share
  | user
  | secret
deriving DecidableEq, Repr

namespace Label

/-- The name that is made from an identifier. -/
def spell : Label → Text → Text
  | share, identifier => Provisioner.shareName identifier
  | user, identifier => Provisioner.userName identifier
  | secret, identifier => Provisioner.secretName (Provisioner.userName identifier)

theorem spell_injective (label : Label) : Function.Injective label.spell := by
  intro left right same
  cases label with
  | share => exact List.append_cancel_left same
  | user => exact List.append_cancel_left same
  | secret => exact List.append_cancel_left (List.append_cancel_left (List.append_cancel_right same))

/-- The identifier that an attempt in a given world takes for a name. -/
def identifierIn (world : World) : Label → Text
  | share => Action.identifierText world.nextId
  | user | secret => Action.identifierText (world.nextId + 1)

end Label

namespace Call

/-- The name of the secret that a request to an API server is to create. -/
def postedName? (request : Http.Request) : Option Json :=
  match request.method, request.body with
  | .post, some (.object members) =>
      match Json.member members "metadata" with
      | .object metadata => some (Json.member metadata "name")
      | _ => none
  | _, _ => none

/-- The name of the given kind that a call makes: of a share and a user, when the agent is
to create them; of a secret, when a store is to write it. -/
def named? : Label → Call → Option Json
  | .share, agent invocation => invocation.creation?.map fun target => .text target.1
  | .user, agent invocation => invocation.creation?.map fun target => .text target.2
  | .secret, createSecret secret _ _ => some secret.name
  | .secret, http request => postedName? request
  | _, _ => none

section Names

variable (store : Store) (secret : SecretReference) (label : Label)

@[simp] theorem named?_readingSecret : (store.readingSecret secret).named? label = none := by
  cases store <;> cases label <;> rfl

@[simp] theorem named?_readingClass (name : Json) :
    (store.readingClass name).named? label = none := by
  cases store <;> cases label <;> rfl

theorem named?_creatingSecret (entries : List (Text × Octets)) :
    (store.creatingSecret secret entries).named? label
      = if label = .secret then some secret.name else none := by
  cases store <;> cases label <;> rfl

theorem named?_of_creates {invocation : Invocation} {share user : Text}
    (creates : invocation.Creates share user) :
    (agent invocation).named? .share = some (.text share)
      ∧ (agent invocation).named? .user = some (.text user)
      ∧ (agent invocation).named? .secret = none := by
  have found := Agent.Invocation.creation?_eq_some_iff.mpr creates
  exact ⟨by simp [named?, found], by simp [named?, found], rfl⟩

theorem named?_of_destroys {invocation : Invocation} {share user : Text}
    (destroys : invocation.Destroys share user) : (agent invocation).named? label = none := by
  have nothing := destroys.creation?_eq_none
  cases label with
  | share => simp [named?, nothing]
  | user => simp [named?, nothing]
  | secret => rfl

end Names

end Call

namespace Provisioner

variable {provisioner : Provisioner} {store : Store} {claim : Claim} {volume : Volume}
  {world after : World} {parameters : ClusterParameters} {connection : Connection}
  {invocation : Invocation}

theorem Launches.creates
    (launches : provisioner.Launches store claim world parameters connection invocation) :
    invocation.Creates world.nextShare world.nextUser :=
  ⟨_, Agent.arguments_of_invocation launches.invoked⟩

theorem Destroys.texts
    (destroys : provisioner.Destroys store volume world parameters connection invocation) :
    ∃ share user, volume.shareName = .text share ∧ volume.grantedUser = .text user
      ∧ invocation.Destroys share user := by
  rcases Agent.texts_of_destruction destroys.invoked with ⟨share, user, isShare, isUser, words⟩
  exact ⟨share, user, isShare, isUser, _, words⟩

section Attempts

variable (launches : Launches provisioner store claim world parameters connection invocation)
  (quiet : world.calls = []) (label : Label)

include launches quiet

theorem named_created (secret : SecretReference) :
    (world.created store secret invocation).calls.filterMap (Call.named? label)
      = if label = .secret then [] else [.text (label.spell (label.identifierIn world))] := by
  have names := Call.named?_of_creates launches.creates
  cases label with
  | share => simp [quiet, names.1, Label.spell, Label.identifierIn, World.nextShare]
  | user => simp [quiet, names.2.1, Label.spell, Label.identifierIn, World.nextUser]
  | secret => simp [quiet, names.2.2]

theorem named_written (secret : SecretReference) (entries : List (Text × Octets)) :
    (store.asked (world.created store secret invocation)
        (store.creatingSecret (publishedSecret claim world) entries)).calls.filterMap
          (Call.named? label)
      = [.text (label.spell (label.identifierIn world))] := by
  rw [Store.asked_calls, List.filterMap_append, named_created launches quiet]
  cases label with
  | share => simp [Call.named?_creatingSecret]
  | user => simp [Call.named?_creatingSecret]
  | secret =>
      simp [Call.named?_creatingSecret, Label.spell, Label.identifierIn, publishedSecret,
        World.nextUser]

end Attempts

/-- An attempt to satisfy a claim makes at most one name of each kind, and takes the
identifiers for them. -/
theorem ProvisionCourse.named {result : Except Failure Volume}
    (course : ProvisionCourse provisioner store claim world result after)
    (quiet : world.calls = []) (label : Label) :
    after.calls.filterMap (Call.named? label) = []
      ∨ after.nextId = world.nextId + 2
        ∧ after.calls.filterMap (Call.named? label)
          = [.text (label.spell (label.identifierIn world))] := by
  cases course with
  | selectorGiven | parametersRefused | unconnected | unlaunched =>
      exact .inl (by simp [quiet])
  | agentFailed launches | recordRefused launches | pathRefused launches
  | keyUnencodable launches =>
      have names := named_created launches quiet label
      by_cases isSecret : label = .secret
      · exact .inl (by rw [names, if_pos isSecret])
      · exact .inr ⟨rfl, by rw [names, if_neg isSecret]⟩
  | unpublished publishes | published publishes =>
      exact .inr ⟨rfl, named_written publishes.toLaunches quiet label _ _⟩

theorem DeleteCourse.named {result : Except Failure Deletion}
    (course : DeleteCourse provisioner store volume world result after)
    (quiet : world.calls = []) (label : Label) :
    after.calls.filterMap (Call.named? label) = [] := by
  cases course with
  | agentFailed destroys | deleted destroys =>
      rcases destroys.texts with ⟨share, user, _, _, destroyed⟩
      simp [quiet, Call.named?_of_destroys label destroyed]
  | _ => simp [quiet]

end Provisioner

end ShareProvisioner
