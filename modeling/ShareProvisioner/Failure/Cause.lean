import ShareProvisioner.Agent.Command
import ShareProvisioner.Failure.Kind
import ShareProvisioner.Json.Reader

/-!
# Causes of declared failures

A cause says what went wrong, with the values that its message shows.  The kind
decides the wording; the cause supplies the arguments.
-/

namespace ShareProvisioner

structure SecretReference where
  namespaceName : Json
  name : Json
deriving DecidableEq

namespace Failure

inductive RecordField where
  | path
  | user
  | auth
deriving DecidableEq, Repr

def RecordField.name : RecordField → Text
  | .path => "path"
  | .user => "user"
  | .auth => "auth"

inductive ApiProblem where
  | transport (details : Text)
  | status (code : Nat) (message : Text)
  | notJson (path : Text)
  | notObject (path : Text)
deriving DecidableEq, Repr

def ApiProblem.details : ApiProblem → Text
  | .transport details => details
  | .status code message => "HTTP " ++ Text.ofNat code ++ ": " ++ message
  | .notJson path => "invalid JSON response from " ++ path
  | .notObject path => "unexpected response from " ++ path ++ ": expected a JSON object"

inductive AgentProblem where
  | notStarted (path : Text) (code : Int) (reason : Text)
  | exited (mode : Agent.Mode) (share : Text) (status : Int)
deriving DecidableEq, Repr

def AgentProblem.details : AgentProblem → Text
  | .notStarted path code reason =>
      "cannot execute " ++ path ++ ": [Errno " ++ Text.ofInt code ++ "] " ++ reason
  | .exited mode share status =>
      mode.name ++ " of share " ++ share ++ " exited with status " ++ Text.ofInt status

inductive RecordProblem where
  | notJson (fault : Json.Fault)
  | notObject
  | incomplete (missing : List RecordField)
  | relativePath (path : Text)
deriving DecidableEq, Repr

def RecordProblem.details : RecordProblem → Text
  | .notJson fault => "not JSON (" ++ fault.message ++ ")"
  | .notObject => "expected a JSON object"
  | .incomplete missing => "missing " ++ Text.join ", " (missing.map RecordField.name)
  | .relativePath path => "path " ++ path.quoted ++ " is not absolute"

inductive VolumeProblem where
  | unnamed
  | foreignSource
  | noUser
deriving DecidableEq, Repr

def VolumeProblem.details : VolumeProblem → Text
  | .unnamed => "metadata.name is required"
  | .foreignSource => "not a CephFS volume"
  | .noUser => "no CephFS user recorded"

inductive Cause where
  | unknownParameter (option : Text)
  | duplicateParameter (option : Text)
  | missingParameter (parameter : Text)
  | selectorGiven
  | badVolume (volume : Json) (problem : VolumeProblem)
  | secretNotFound (secret : SecretReference)
  | secretEmpty (secret : SecretReference)
  | secretInvalid (secret : SecretReference)
  | secretExists (secret : SecretReference)
  | classNotFound (name : Json)
  | classMissing (volume : Json)
  | apiFailed (problem : ApiProblem)
  | apiUnreachable (details : Text)
  | apiTimeout (seconds : Json)
  | agentFailed (problem : AgentProblem) (output : Text)
  | badRecord (problem : RecordProblem) (output : Text)
  | ownershipNotFound (key : Text) (volume : Json)
deriving DecidableEq

namespace Cause

def kind : Cause → Kind
  | unknownParameter _ => .invalidParameter
  | duplicateParameter _ => .duplicateParameter
  | missingParameter _ => .missingParameter
  | selectorGiven => .selectorNotSupported
  | badVolume _ _ => .invalidVolume
  | secretNotFound _ => .secretNotFound
  | secretEmpty _ => .secretEmpty
  | secretInvalid _ => .secretInvalid
  | secretExists _ => .secretAlreadyExists
  | classNotFound _ => .classNotFound
  | classMissing _ => .classMissing
  | apiFailed _ => .apiFailed
  | apiUnreachable _ => .apiUnreachable
  | apiTimeout _ => .apiTimeout
  | agentFailed _ _ => .agentFailed
  | badRecord _ _ => .agentOutput
  | ownershipNotFound _ _ => .ownershipNotFound

def arguments : Cause → Entries Text Json
  | unknownParameter option | duplicateParameter option => [("option", .text option)]
  | missingParameter parameter => [("parameter", .text parameter)]
  | selectorGiven => []
  | badVolume volume problem => [("volume", volume), ("details", .text problem.details)]
  | secretNotFound secret | secretEmpty secret | secretInvalid secret | secretExists secret =>
      [("namespace", secret.namespaceName), ("name", secret.name)]
  | classNotFound name => [("name", name)]
  | classMissing volume => [("volume", volume)]
  | apiFailed problem => [("details", .text problem.details)]
  | apiUnreachable details => [("details", .text details)]
  | apiTimeout seconds => [("timeout", seconds)]
  | agentFailed problem _ => [("details", .text problem.details)]
  | badRecord problem _ => [("details", .text problem.details)]
  | ownershipNotFound key volume =>
      [("annotation", .text key), ("volume", volume)]

def message (cause : Cause) : Text :=
  match Template.fill cause.arguments cause.kind.template with
  | .ok message => message
  | .error fault => fault.message

/-- What the agent printed, kept for diagnosis and never shown in an answer. -/
def output : Cause → Text
  | agentFailed _ output | badRecord _ output => output
  | _ => []

def returnCode : Cause → Option Int
  | agentFailed (.exited _ _ status) _ => some status
  | _ => none

/-- Every cause supplies all arguments of its template. -/
theorem fill_template (cause : Cause) :
    Template.fill cause.arguments cause.kind.template = .ok cause.message := by
  cases cause <;> rfl

example (volume : Json) : message (.classMissing volume)
    = "Volume " ++ (volume.display ++ " has no class annotation") := rfl

end Cause

end Failure

end ShareProvisioner
