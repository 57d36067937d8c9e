import ShareProvisioner.Failure.Template

/-!
# The taxonomy of failures

Every declared failure has a kind.  The kinds form a tree: requests that the caller
must change, dependencies that did not deliver, the allocation agent, and missing
ownership.  A kind fixes how its message is worded, whether a retry can help, and how
the service answers.
-/

namespace ShareProvisioner.Failure

inductive Kind where
  | failure
  | invalidRequest
  | invalidParameter
  | duplicateParameter
  | missingParameter
  | selectorNotSupported
  | invalidVolume
  | dependency
  | secretNotFound
  | secretEmpty
  | secretInvalid
  | secretAlreadyExists
  | classNotFound
  | classMissing
  | apiFailed
  | apiUnreachable
  | apiTimeout
  | agentFailed
  | agentOutput
  | ownershipNotFound
deriving DecidableEq, Repr

namespace Kind

/-- All kinds, a general one before those below it. -/
def all : List Kind :=
  [failure, invalidRequest, invalidParameter, duplicateParameter, missingParameter,
    selectorNotSupported, invalidVolume, dependency, secretNotFound, secretEmpty,
    secretInvalid, secretAlreadyExists, classNotFound, classMissing, apiFailed,
    apiUnreachable, apiTimeout, agentFailed, agentOutput, ownershipNotFound]

def name : Kind → Text
  | failure => "CephFSProvisionerException"
  | invalidRequest => "ProvisionValidationError"
  | invalidParameter => "InvalidParameter"
  | duplicateParameter => "DuplicateParameter"
  | missingParameter => "MissingParameter"
  | selectorNotSupported => "SelectorNotSupported"
  | invalidVolume => "InvalidVolume"
  | dependency => "DependencyError"
  | secretNotFound => "SecretNotFound"
  | secretEmpty => "SecretEmpty"
  | secretInvalid => "SecretInvalid"
  | secretAlreadyExists => "SecretAlreadyExists"
  | classNotFound => "StorageClassNotFound"
  | classMissing => "VolumeClassMissing"
  | apiFailed => "KubeAPIError"
  | apiUnreachable => "KubeAPIConnectionError"
  | apiTimeout => "KubeAPITimeout"
  | agentFailed => "AgentError"
  | agentOutput => "AgentInvalidOutput"
  | ownershipNotFound => "OwnershipNotFound"

/-- The kinds that a kind belongs to, itself first and the most general one last. -/
def lineage : Kind → List Kind
  | failure => [failure]
  | invalidRequest => [invalidRequest, failure]
  | dependency => [dependency, failure]
  | apiFailed => [apiFailed, dependency, failure]
  | agentFailed => [agentFailed, failure]
  | agentOutput => [agentOutput, agentFailed, failure]
  | ownershipNotFound => [ownershipNotFound, failure]
  | kind@invalidParameter | kind@duplicateParameter | kind@missingParameter
  | kind@selectorNotSupported | kind@invalidVolume => [kind, invalidRequest, failure]
  | kind@secretNotFound | kind@secretEmpty | kind@secretInvalid | kind@secretAlreadyExists
  | kind@classNotFound | kind@classMissing => [kind, dependency, failure]
  | kind@apiUnreachable | kind@apiTimeout => [kind, apiFailed, dependency, failure]

def isA (kind general : Kind) : Bool :=
  kind.lineage.contains general

/-- Whether the caller may repeat the same request: a dependency may recover, except
that a volume without a class will not get one. -/
def isRetryable (kind : Kind) : Bool :=
  kind.isA dependency && kind ≠ classMissing

def template : Kind → Template
  | failure => ["An unknown exception occurred."]
  | invalidRequest => ["Invalid provisioning request: ", .shown "details"]
  | invalidParameter => ["invalid option ", .quoted "option"]
  | duplicateParameter => ["option ", .quoted "option", " specified more than once"]
  | missingParameter => ["missing Ceph ", .shown "parameter"]
  | selectorNotSupported => ["claim Selector is not supported"]
  | invalidVolume => ["Invalid volume ", .shown "volume", ": ", .shown "details"]
  | dependency => ["Dependency error: ", .shown "details"]
  | secretNotFound => ["Secret ", .shown "namespace", "/", .shown "name", " not found"]
  | secretEmpty => ["no secret found in ", .shown "namespace", "/", .shown "name"]
  | secretInvalid =>
      ["Secret ", .shown "namespace", "/", .shown "name", " does not hold a valid key"]
  | secretAlreadyExists =>
      ["Secret ", .shown "namespace", "/", .shown "name", " already exists"]
  | classNotFound => ["StorageClass ", .shown "name", " not found"]
  | classMissing => ["Volume ", .shown "volume", " has no class annotation"]
  | apiFailed => ["Kubernetes API error: ", .shown "details"]
  | apiUnreachable => ["Failed to connect to Kubernetes API: ", .shown "details"]
  | apiTimeout => ["Kubernetes API request timed out after ", .shown "timeout", " seconds"]
  | agentFailed => ["Allocation agent failed: ", .shown "details"]
  | agentOutput => ["invalid provisioner output: ", .shown "details"]
  | ownershipNotFound =>
      [.shown "annotation", " annotation not found on PV ", .shown "volume"]

/-- The status and the code with which the service answers a failure. -/
def answer (kind : Kind) : Nat × Text :=
  if kind.isA invalidRequest then (400, "VALIDATION_ERROR")
  else if kind.isA ownershipNotFound then (409, "OWNERSHIP_NOT_FOUND")
  else if kind.isA dependency then (503, "DEPENDENCY_ERROR")
  else if kind.isA agentFailed then (502, "AGENT_ERROR")
  else (500, "PROVISIONER_ERROR")

end Kind

end ShareProvisioner.Failure
