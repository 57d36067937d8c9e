import ShareProvisioner.Agent.Process
import ShareProvisioner.Cluster.Http
import ShareProvisioner.Parameters
import ShareProvisioner.Secret

/-!
# The outside world

Everything an operation can see or change apart from its arguments is a `World`: the
secrets and classes kept in memory, the answers that requests and runs of the agent
will get, the next identifier, and the calls made so far.  An operation is an `Action`,
a function from a world to a result and the world afterwards; a failed one leaves
behind whatever it had done before it failed.
-/

namespace ShareProvisioner

inductive Call where
  | readSecret (secret : SecretReference)
  | createSecret (secret : SecretReference) (type : Json) (data : SecretData)
  | readClass (name : Json)
  | http (request : Http.Request)
  | agent (invocation : Agent.Invocation)
deriving DecidableEq

/-- Secrets by namespace and name, and the parameters of storage classes by name. -/
structure Memory where
  secrets : Entries (Text × Text) SecretData := []
  classes : Entries Text Mapping := []
deriving DecidableEq

structure World where
  memory : Memory := {}
  responses : List Http.Outcome := []
  runs : List Agent.Outcome := []
  nextId : Nat := 1
  calls : List Call := []

/-- An operation that may change the world and may fail. -/
abbrev Action (α : Type) := ExceptT Failure (StateM World) α

namespace Action

def runIn {α : Type} (world : World) (action : Action α) : Except Failure α × World :=
  StateT.run (ExceptT.run action) world

def refuse {α : Type} (cause : Failure.Cause) : Action α :=
  throw (.declared cause)

def lift {α : Type} : Except Failure α → Action α
  | .ok value => pure value
  | .error failure => throw failure

/-- A computation that may fail with a declared cause. -/
def checked {α : Type} : Except Failure.Cause α → Action α
  | .ok value => pure value
  | .error cause => throw (.declared cause)

/-- A computation that may meet a fault. -/
def guarded {α : Type} : Except Failure.Fault α → Action α
  | .ok value => pure value
  | .error fault => throw (.unexpected fault)

def note (call : Call) : Action Unit :=
  modify fun world => { world with calls := world.calls ++ [call] }

/-- The text of an identifier: a number in hexadecimal, in the form of a UUID. -/
def identifierText (number : Nat) : Text :=
  "00000000-0000-0000-0000-" ++ Text.hexadecimal 12 number

def freshIdentifier : Action Text := do
  let world ← get
  set { world with nextId := world.nextId + 1 }
  return identifierText world.nextId

/-- Sends a request; when no outcome is left, there is no connection. -/
def send (request : Http.Request) : Action Http.Outcome := do
  note (.http request)
  let world ← get
  match world.responses with
  | [] => return .failed .connection "no response scripted"
  | outcome :: rest =>
      set { world with responses := rest }
      return outcome

/-- Runs the agent; when no outcome is left, there is no such program. -/
def launch (invocation : Agent.Invocation) : Action Agent.Outcome := do
  note (.agent invocation)
  let world ← get
  match world.runs with
  | [] => return .notStarted 2 "No such file or directory"
  | outcome :: rest =>
      set { world with runs := rest }
      return outcome

end Action

end ShareProvisioner
