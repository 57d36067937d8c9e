import ShareProvisioner.Cluster.Client

/-!
# Stores

Secrets and storage classes are kept either in memory or by a cluster.  Both kinds of
store answer the same three questions, and a caller cannot tell them apart except by
the calls they make.
-/

namespace ShareProvisioner

inductive Store where
  | memory
  | cluster (client : Cluster.Client)
deriving DecidableEq

namespace Memory

/-- The texts that name a secret in memory; other values name none. -/
def secretKey? (secret : SecretReference) : Option (Text × Text) :=
  match secret.namespaceName, secret.name with
  | .text namespaceName, .text name => some (namespaceName, name)
  | _, _ => none

def secret? (memory : Memory) (secret : SecretReference) : Option SecretData :=
  (secretKey? secret).bind memory.secrets.find?

def withSecret (memory : Memory) (namespaceName name : Text) (data : SecretData) : Memory :=
  { memory with secrets := memory.secrets.insert (namespaceName, name) data }

def withoutSecret (memory : Memory) (namespaceName name : Text) : Memory :=
  { memory with secrets := memory.secrets.erase (namespaceName, name) }

def withClass (memory : Memory) (name : Text) (parameters : Mapping) : Memory :=
  { memory with classes := memory.classes.insert name parameters }

def withoutClass (memory : Memory) (name : Text) : Memory :=
  { memory with classes := memory.classes.erase name }

/-- Refuses a value that cannot be looked up: a list or an object. -/
def checkKey (value : Json) : Except Failure.Fault Unit :=
  if (Key.ofJson? value).isSome then .ok () else .error (.notKey value)

def readSecret (secret : SecretReference) : Action SecretData := do
  Action.note (.readSecret secret)
  Action.guarded (checkKey secret.namespaceName)
  Action.guarded (checkKey secret.name)
  match (← get).memory.secret? secret with
  | some data => return data
  | none => Action.refuse (.secretNotFound secret)

def createSecret (secret : SecretReference) (type : Json) (data : SecretData) :
    Action Unit := do
  Action.note (.createSecret secret type data)
  Action.guarded (checkKey secret.namespaceName)
  Action.guarded (checkKey secret.name)
  let world ← get
  match secretKey? secret with
  | some (namespaceName, name) =>
      if (world.memory.secrets.find? (namespaceName, name)).isSome then
        Action.refuse (.secretExists secret)
      else set { world with memory := world.memory.withSecret namespaceName name data }
  | none => return ()

def readClass (name : Json) : Action StorageClass := do
  Action.note (.readClass name)
  Action.guarded (checkKey name)
  match name with
  | .text className =>
      match (← get).memory.classes.find? className with
      | some parameters => return { name, parameters }
      | none => Action.refuse (.classNotFound name)
  | _ => Action.refuse (.classNotFound name)

end Memory

namespace Store

def readSecret (secret : SecretReference) : Store → Action SecretData
  | memory => Memory.readSecret secret
  | cluster client => client.readSecret secret

def createSecret (secret : SecretReference) (data : SecretData) : Store → Action Unit
  | memory => Memory.createSecret secret (.text "Opaque") data
  | cluster client => client.createSecret secret (.text "Opaque") data

def readClass (name : Json) : Store → Action StorageClass
  | memory => Memory.readClass name
  | cluster client => client.readClass name

def adminKey (store : Store) (secret : SecretReference) : Action Text := do
  let data ← store.readSecret secret
  Action.checked (data.key secret)

def connect (store : Store) (parameters : ClusterParameters) : Action Connection := do
  let adminKey ← store.adminKey parameters.secret
  return {
    cluster := parameters.cluster
    adminId := parameters.adminId
    adminKey
    monitors := parameters.monitors }

end Store

end ShareProvisioner
