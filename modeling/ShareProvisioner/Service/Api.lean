import ShareProvisioner.Service.Answer
import ShareProvisioner.Text.Lines

/-!
# The service

The service offers three operations: to provision a volume for a claim, to delete the
share behind a volume, and to name the provisioner and its identity.  It checks what it
is given, lets the provisioner work, and turns the outcome into an answer.
-/

namespace ShareProvisioner.Service

/-- A request as received.  The path is plain text: nothing in it is escaped, and no mark
in it starts a query or a fragment. -/
structure Request where
  method : Text
  path : Text
  body : Octets := []
deriving DecidableEq, Repr

inductive Operation where
  | provision
  | delete
  | identity
deriving DecidableEq, Repr

namespace Operation

def all : List Operation := [provision, delete, identity]

def path : Operation → Text
  | provision => "/v1/volumes"
  | delete => "/v1/volumes/delete"
  | identity => "/v1/identity"

def method : Operation → Text
  | provision | delete => "POST"
  | identity => "GET"

/-- The operation offered at a path.  As the pattern language of the service has it, a
line feed at the very end passes unnoticed. -/
def at? (path : Text) : Option Operation :=
  all.find? (·.path = path.withoutLineEnd)

/-- Whether a path with slashes at its end would lead to an operation without them. -/
def isBeforeSlashes (path : Text) : Bool :=
  path.getLast? = some (.char '/') && (at? (path.trimRight (· = .char '/'))).isSome

example : at? (Text.ofString "/v1/identity\n") = some .identity := by decide
example : at? (Text.ofString "/v1/identity?x=1") = none := by decide
example : isBeforeSlashes (Text.ofString "/v1/volumes//") = true := by decide

end Operation

def configured (provisioner : Option Provisioner) : Action Provisioner :=
  match provisioner with
  | some provisioner => pure provisioner
  | none => throw (.unexpected .noProvisioner)

def provisionVolume (provisioner : Option Provisioner) (store : Store) (claim : Claim) :
    Action Answer := do
  let volume ← (← configured provisioner).provision store claim
  return .provisioned volume

def deleteVolume (provisioner : Option Provisioner) (store : Store)
    (manifest : List (Text × Json)) : Action Answer := do
  let volume ← Action.lift (Volume.ofManifest manifest)
  let deletion ← (← configured provisioner).delete store volume
  return .ofDeletion deletion

def withBody {α : Type} (octets : Octets) (check : List (Text × Json) → Checked α)
    (go : α → Action Answer) : Action Answer :=
  match readBody octets with
  | .unreadable => return .remark 400 "There was an error parsing the body"
  | .complaints complaints => return .ofComplaints complaints
  | .members members =>
      match check members with
      | .error complaints => return .ofComplaints complaints
      | .ok value => go value

def perform (provisioner : Option Provisioner) (store : Store) (operation : Operation)
    (body : Octets) : Action Answer :=
  match operation with
  | .provision => withBody body claimOf (provisionVolume provisioner store)
  | .delete => withBody body manifestOf (deleteVolume provisioner store)
  | .identity => return .identity (← configured provisioner)

/-- The answer to a request.  Methods are told apart by letter case, too. -/
def answer (provisioner : Option Provisioner) (store : Store) (request : Request) :
    Action Answer :=
  match Operation.at? request.path with
  | some operation =>
      if operation.method = request.method then perform provisioner store operation request.body
      else return .remark 405 "Method Not Allowed"
  | none =>
      if Operation.isBeforeSlashes request.path then return .redirection
      else return .remark 404 "Not Found"

def reply : Except Failure Answer → Answer
  | .ok answer => answer.sent
  | .error failure => (Answer.ofFailure failure).sent

structure Exchange where
  answer : Answer
  calls : List Call
deriving DecidableEq

def serve (provisioner : Option Provisioner) (store : Store) (world : World) :
    List Request → List Exchange × World
  | [] => ([], world)
  | request :: requests =>
      let (outcome, world) :=
        Action.runIn { world with calls := [] } (answer provisioner store request)
      let (exchanges, final) := serve provisioner store world requests
      (⟨reply outcome, world.calls⟩ :: exchanges, final)

end ShareProvisioner.Service
