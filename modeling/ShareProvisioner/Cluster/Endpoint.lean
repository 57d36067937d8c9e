import ShareProvisioner.Cluster.Client
import ShareProvisioner.Settings.Configuration

/-!
# Reaching the cluster

The address of the API server is configured, or taken from the environment that a
cluster gives the processes inside it.  The token and the authorities are files, both of
which may be absent.
-/

namespace ShareProvisioner.Cluster

def internalEndpoint (environment : Entries Text Text) : Option Text :=
  match environment.find? "KUBERNETES_SERVICE_HOST" with
  | none | some [] => none
  | some host =>
      let portNumber := (environment.find? "KUBERNETES_SERVICE_PORT").getD "443"
      let host := if host.contains (CodePoint.char ':') then "[" ++ host ++ "]" else host
      some ("https://" ++ host ++ ":" ++ portNumber)

/-- The endpoint that is configured, and else that of the surrounding cluster. -/
def endpoint (surroundings : Surroundings) (configuration : Configuration) :
    Except Failure.Fault Text := do
  match ← configuration.value .endpoint with
  | some (first :: rest) => return first :: rest
  | _ =>
      match internalEndpoint surroundings.environment with
      | some internal => return internal
      | none => throw .noEndpoint

/-- The token in the file of the given name, if there is such a file and it holds more
than white space. -/
def readToken (files : Files) (name : Option Text) : Except Failure.Fault (Option Text) :=
  match name with
  | none => .ok none
  | some name =>
      if files.contains name then do
        let token := (← Files.textOf (← files.read name)).strip
        return if token.isEmpty then none else some token
      else .ok none

def Client.ofConfiguration (surroundings : Surroundings) (configuration : Configuration) :
    Except Failure.Fault Client := do
  let endpoint ← endpoint surroundings configuration
  let token ← readToken surroundings.files (← configuration.value .tokenFile)
  let timeout := Setting.toJson .timeout (← configuration.value .timeout)
  let retryCount := Setting.toJson .retryCount (← configuration.value .retryCount)
  let verify ← configuration.value .verification
  let authorities ← configuration.value .authorities
  return .ofEndpoint endpoint token timeout retryCount (verify.getD false) authorities
    (authorities.any surroundings.files.contains)

end ShareProvisioner.Cluster
