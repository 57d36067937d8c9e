import ShareProvisioner.Agent.Record
import ShareProvisioner.Outside.Store
import ShareProvisioner.Volume.Manifest
import ShareProvisioner.Volume.Ownership

/-!
# Provisioning and deleting volumes

A provisioner gives each claim a share of its own, created by the agent together with a
user for it, and publishes the user's key as a secret in the claim's namespace.  It
deletes a volume only if it has stamped it.  Between two operations it remembers
nothing but its identity.
-/

namespace ShareProvisioner

structure Claim where
  volumeName : Text
  namespaceName : Text
  capacity : Text
  parameters : List (Text × Text) := []
  selector : Option Json := none
  reclaimPolicy : Text := "Delete"
  storageClass : Option Text := none
deriving DecidableEq

structure Provisioner where
  identity : Text
  name : Text := "ceph.com/cephfs"
  agentPath : Text := Agent.defaultPath
deriving DecidableEq, Repr

inductive Deletion where
  | deleted
  | ignored (reason : Text)
deriving DecidableEq, Repr

def Deletion.reason? : Deletion → Option Text
  | .deleted => none
  | .ignored reason => some reason

def Deletion.isIgnored : Deletion → Bool
  | .deleted => false
  | .ignored _ => true

namespace Provisioner

def shareName (identifier : Text) : Text := "dyn-pvc-" ++ identifier

def userName (identifier : Text) : Text := "dyn-user-" ++ identifier

def secretName (user : Text) : Text := "ceph-" ++ user ++ "-secret"

def secretEntry : Text := "key"

/-- A provisioner of the given description; without an identity it gets a new one. -/
def make (identity name agentPath : Option Text) : Action Provisioner := do
  let identity ← match identity with
    | none | some [] => Action.freshIdentifier
    | some given => pure given
  return {
    identity
    name := name.getD "ceph.com/cephfs"
    agentPath := agentPath.getD Agent.defaultPath }

def runAgent (provisioner : Provisioner) (mode : Agent.Mode) (share user : Json)
    (connection : Connection) : Action Text := do
  let invocation ← Action.guarded
    (Agent.invocation provisioner.agentPath mode share user connection)
  let outcome ← Action.launch invocation
  Action.checked (outcome.output provisioner.agentPath mode share.display)

def createShare (provisioner : Provisioner) (share user : Text) (connection : Connection) :
    Action Agent.Record := do
  let output ← provisioner.runAgent .create (.text share) (.text user) connection
  Action.checked (Agent.Record.parse output)

/-- Destroys a share and its user; what the agent prints is of no interest. -/
def destroyShare (provisioner : Provisioner) (share user : Json) (connection : Connection) :
    Action Unit := do
  let _ ← provisioner.runAgent .destroy share user connection

def annotations (provisioner : Provisioner) (share : Text) (storageClass : Option Text) :
    Mapping :=
  let stamped := (Ownership.stamp provisioner.identity share).insert
    (.text AnnotationKey.provisionedBy.name) (.text provisioner.name)
  match storageClass with
  | none | some [] => stamped
  | some className => stamped.insert (.text AnnotationKey.storageClass.name) (.text className)

def volumeFor (provisioner : Provisioner) (claim : Claim) (monitors : List Text)
    (share secret exportPath grantedUser : Text) : Volume where
  name := .text claim.volumeName
  capacity := .text claim.capacity
  reclaimPolicy := .text claim.reclaimPolicy
  monitors := monitors.map .text
  exportPath := .text exportPath
  grantedUser := .text grantedUser
  secretName := .text secret
  secretNamespace := .text claim.namespaceName
  storageClass := (claim.storageClass.map Json.text).getD .null
  annotations := provisioner.annotations share claim.storageClass
  accessModes := Volume.defaultAccessModes

/-- Creates a share with a user for it and publishes the user's key.  The key is
published last: if that fails the share is left behind, and a repeated attempt makes
another. -/
def allocate (provisioner : Provisioner) (store : Store) (claim : Claim)
    (connection : Connection) (share user : Text) : Action Volume := do
  let record ← provisioner.createShare share user connection
  let exportPath ← Action.checked (Agent.exportPath record.path)
  let secret := secretName user
  let key ← Action.guarded ((Utf8.encode record.key).mapError .unencodable)
  store.createSecret ⟨.text claim.namespaceName, .text secret⟩ [(secretEntry, .octets key)]
  return provisioner.volumeFor claim connection.monitors share secret exportPath record.user

/-- Satisfies a claim.  Nothing is asked of the outside before the claim has been
checked. -/
def provision (provisioner : Provisioner) (store : Store) (claim : Claim) : Action Volume := do
  if claim.selector.isSome then
    Action.refuse .selectorGiven
  let parameters ← Action.lift (Parameters.resolve (.ofTexts claim.parameters))
  let connection ← store.connect parameters
  let share := shareName (← Action.freshIdentifier)
  let user := userName (← Action.freshIdentifier)
  provisioner.allocate store claim connection share user

/-- Deletes the share behind a volume, if the volume is the provisioner's own.  How to
reach the cluster is asked of the volume's class. -/
def delete (provisioner : Provisioner) (store : Store) (volume : Volume) : Action Deletion := do
  match Ownership.verify volume provisioner.identity with
  | .notFound =>
      let missing : AnnotationKey := if volume.ownerIdentity = .null then .identity else .share
      Action.refuse (.ownershipNotFound missing.name volume.name)
  | .notMine => return .ignored "identity annotation on PV does not match ours"
  | .owned =>
      if !volume.grantedUser.isTruthy then
        Action.refuse (.badVolume volume.name .noUser)
      if !volume.className.isTruthy then
        Action.refuse (.classMissing volume.name)
      let storageClass ← store.readClass volume.className
      let parameters ← Action.lift (Parameters.resolve storageClass.parameters)
      let connection ← store.connect parameters
      provisioner.destroyShare volume.shareName volume.grantedUser connection
      return .deleted

end Provisioner

end ShareProvisioner
