import ShareProvisioner.Mapping

/-!
# Volumes

A volume is a share as the cluster knows it.  Who created it and under which share
name stands in its annotations, so that this knowledge survives with the object in the
cluster.  A volume read back from there may hold any JSON value in its fields.
-/

namespace ShareProvisioner

inductive AnnotationKey where
  | identity
  | share
  | storageClass
  | provisionedBy
deriving DecidableEq, Repr

def AnnotationKey.name : AnnotationKey → Text
  | .identity => "cephFSProvisionerIdentity"
  | .share => "cephShare"
  | .storageClass => "volume.beta.kubernetes.io/storage-class"
  | .provisionedBy => "pv.kubernetes.io/provisioned-by"

structure Volume where
  name : Json
  capacity : Json
  reclaimPolicy : Json
  monitors : List Json
  exportPath : Json
  grantedUser : Json
  secretName : Json
  secretNamespace : Json := .null
  storageClass : Json := .null
  annotations : Mapping := []
  accessModes : List Json
deriving DecidableEq

namespace Volume

/-- The access modes of a share: it can be mounted by many at a time. -/
def defaultAccessModes : List Json :=
  [.text "ReadWriteOnce", .text "ReadOnlyMany", .text "ReadWriteMany"]

/-- The value of an annotation; an absent one counts as null. -/
def annotationAt (volume : Volume) (key : AnnotationKey) : Json :=
  (volume.annotations.find? (.text key.name)).getD .null

def ownerIdentity (volume : Volume) : Json :=
  volume.annotationAt .identity

def shareName (volume : Volume) : Json :=
  volume.annotationAt .share

/-- The storage class that the volume came from: the annotation, or the field if that
says nothing. -/
def className (volume : Volume) : Json :=
  (volume.annotationAt .storageClass).orElse volume.storageClass

def toJson (volume : Volume) : Json :=
  .object [
    ("name", volume.name),
    ("capacity", volume.capacity),
    ("reclaim_policy", volume.reclaimPolicy),
    ("monitors", .array volume.monitors),
    ("export_path", volume.exportPath),
    ("granted_user", volume.grantedUser),
    ("secret_name", volume.secretName),
    ("secret_namespace", volume.secretNamespace),
    ("storage_class", volume.storageClass),
    ("annotations", volume.annotations.toJson),
    ("access_modes", .array volume.accessModes),
    ("owner_identity", volume.ownerIdentity),
    ("share_name", volume.shareName)]

end Volume

end ShareProvisioner
