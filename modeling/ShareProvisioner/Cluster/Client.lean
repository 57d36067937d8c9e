import ShareProvisioner.Outside.World

/-!
# The cluster's API

A client reads and creates secrets and reads storage classes through the API server of
the cluster.  Each call is one request; the answer decides between a result and a
failure.  An object that does not exist and one that already does are told apart from
all other failures by their status.
-/

namespace ShareProvisioner.Cluster

/-- How to reach an API server.  The limits on time and on repetition are numbers, or null
where there is none. -/
structure Client where
  baseUrl : Text
  authorization : Option Text := none
  timeout : Json := .integer 30
  retryCount : Json := .integer 3
  verification : Http.Verification := .system true
deriving DecidableEq

namespace Client

/-- The client for an endpoint.  A token authorizes it unless it is empty; a file of
authorities is used if verification is wanted and the file exists. -/
def ofEndpoint (endpoint : Text) (token : Option Text) (timeout retryCount : Json)
    (verify : Bool) (bundle : Option Text) (bundleExists : Bool) : Client where
  baseUrl := Text.trimRight (· = .char '/') endpoint
  authorization := (token.filter (!·.isEmpty)).map ("Bearer " ++ ·)
  timeout := timeout
  retryCount := retryCount
  verification :=
    match bundle with
    | some path =>
        if !path.isEmpty && verify && bundleExists then .bundle path else .system verify
    | none => .system verify

/-! ## Retries

Only reading is repeated, since creating a secret twice is not the same as once. -/

def retriedMethods : List Text := ["GET"]

def retriedStatuses : List Nat := [429, 500, 502, 503, 504]

def isRetried (method : Text) (status : Int) : Bool :=
  retriedMethods.contains method.upper && retriedStatuses.any (Int.ofNat · = status)

/-! ## Requests -/

def request (client : Client) (method : Http.Method) (path : Text) (body : Option Json) :
    Http.Request where
  method := method
  url := client.baseUrl ++ path
  body := body
  timeout := client.timeout
  verification := client.verification
  authorization := client.authorization

/-- The message in the body of a failed request: that of a status object if it has one,
and else the whole body. -/
def errorMessage (body : Text) : Text :=
  match Json.read body with
  | .ok (.object members) =>
      let message := Json.member members "message"
      if message.isTruthy then message.display else body
  | _ => body

/-- The members of the object that an answer holds.  `special` gives the cause for a
status of its own. -/
def membersOf (client : Client) (path : Text) (special : Nat → Option Failure.Cause) :
    Http.Outcome → Except Failure.Cause (List (Text × Json))
  | .failed problem details =>
      if problem.isTimeout then .error (.apiTimeout client.timeout)
      else if problem.isConnection then .error (.apiUnreachable details)
      else .error (.apiFailed (.transport details))
  | .answered status octets =>
      let body := Utf8.decodeReplacing octets
      match special status with
      | some cause => .error cause
      | none =>
          if 400 ≤ status then .error (.apiFailed (.status status (errorMessage body)))
          else match Json.read body with
            | .ok (.object members) => .ok members
            | .ok _ => .error (.apiFailed (.notObject path))
            | .error _ => .error (.apiFailed (.notJson path))

def exchange (client : Client) (method : Http.Method) (path : Text) (body : Option Json)
    (special : Nat → Option Failure.Cause) : Action (List (Text × Json)) := do
  let outcome ← Action.send (client.request method path body)
  Action.checked (client.membersOf path special outcome)

/-! ## Secrets -/

def secretsPath (secret : SecretReference) : Text :=
  "/api/v1/namespaces/" ++ secret.namespaceName.display ++ "/secrets"

def secretPath (secret : SecretReference) : Text :=
  secretsPath secret ++ "/" ++ secret.name.display

/-- The entries of a secret as the API gives them, in Base64. -/
def decodeEntries : List (Text × Json) → Except Failure.Fault SecretData
  | [] => .ok []
  | (name, .text value) :: rest =>
      match Base64.decode value with
      | .error fault => .error (.malformedBase64 fault)
      | .ok octets => (decodeEntries rest).map ((name, .octets octets) :: ·)
  | (_, value) :: _ => .error (.notBase64 value)

def secretData (members : List (Text × Json)) : Except Failure.Fault SecretData :=
  let data := Json.member members "data"
  if data.isTruthy then
    match data with
    | .object entries => decodeEntries entries
    | _ => .error (.lacks data "items")
  else .ok []

def readSecret (client : Client) (secret : SecretReference) : Action SecretData := do
  let members ← client.exchange .get (secretPath secret) none fun status =>
    if status = 404 then some (.secretNotFound secret) else none
  Action.guarded (secretData members)

def encodeEntries (data : SecretData) : Except Failure.Fault (List (Text × Json)) :=
  data.mapM fun (name, value) =>
    match value with
    | .octets octets => .ok (name, Json.text ((Base64.encode octets).map .char))
    | .text _ => .error .notOctets

def secretObject (secret : SecretReference) (type : Json) (entries : List (Text × Json)) : Json :=
  .object [
    ("apiVersion", .text "v1"),
    ("kind", .text "Secret"),
    ("metadata", .object [("name", secret.name), ("namespace", secret.namespaceName)]),
    ("type", type),
    ("data", .object entries)]

def createSecret (client : Client) (secret : SecretReference) (type : Json)
    (data : SecretData) : Action Unit := do
  let entries ← Action.guarded (encodeEntries data)
  let _ ← client.exchange .post (secretsPath secret)
    (some (secretObject secret type entries)) fun status =>
      if status = 409 then some (.secretExists secret) else none

/-! ## Storage classes -/

def classPath (name : Json) : Text :=
  "/apis/storage.k8s.io/v1/storageclasses/" ++ name.display

/-- The storage class that an object describes, asked for under `name`. -/
def storageClass (name : Json) (members : List (Text × Json)) :
    Except Failure.Fault StorageClass := do
  let metadata := Json.member members "metadata"
  let givenName ←
    if metadata.isTruthy then
      match metadata with
      | .object metadataMembers => pure ((Entries.find? metadataMembers "name").getD name)
      | _ => throw (.lacks metadata "get")
    else pure name
  let parameters ← Mapping.ofJson (Json.member members "parameters")
  return {
    name := givenName
    provisioner := (Entries.find? members "provisioner").getD (.text [])
    parameters }

def readClass (client : Client) (name : Json) : Action StorageClass := do
  let members ← client.exchange .get (classPath name) none fun status =>
    if status = 404 then some (.classNotFound name) else none
  Action.guarded (storageClass name members)

end Client

end ShareProvisioner.Cluster
