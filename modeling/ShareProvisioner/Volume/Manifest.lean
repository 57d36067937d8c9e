import ShareProvisioner.Volume.Descriptor

/-!
# Manifests

A volume is published as a `PersistentVolume` object whose source is a CephFS share.
Rendering leaves out a class and a namespace that say nothing; parsing reads only the
members it knows and puts defaults in place of absent ones.
-/

namespace ShareProvisioner.Volume

/-! ## Rendering -/

def secretMembers (volume : Volume) : List (Text × Json) :=
  ("name", volume.secretName) ::
    if volume.secretNamespace.isTruthy then [("namespace", volume.secretNamespace)] else []

def sourceMembers (volume : Volume) : List (Text × Json) :=
  [("monitors", .array volume.monitors),
    ("path", volume.exportPath),
    ("user", volume.grantedUser),
    ("secretRef", .object volume.secretMembers)]

def classMembers (volume : Volume) : List (Text × Json) :=
  if volume.storageClass.isTruthy then [("storageClassName", volume.storageClass)] else []

def specMembers (volume : Volume) : List (Text × Json) :=
  ("persistentVolumeReclaimPolicy", volume.reclaimPolicy)
    :: ("accessModes", .array volume.accessModes)
    :: ("capacity", .object [("storage", volume.capacity)])
    :: ("cephfs", .object volume.sourceMembers)
    :: volume.classMembers

def manifestMembers (volume : Volume) : List (Text × Json) :=
  [("apiVersion", .text "v1"),
    ("kind", .text "PersistentVolume"),
    ("metadata", .object [
      ("name", volume.name),
      ("annotations", volume.annotations.toJson)]),
    ("spec", .object volume.specMembers)]

def manifest (volume : Volume) : Json :=
  .object volume.manifestMembers

/-! ## Parsing -/

/-- The members of a value that may be an object; one that says nothing has none. -/
def membersOf (value : Json) : Except Failure.Fault (List (Text × Json)) :=
  if value.isTruthy then
    match value with
    | .object members => .ok members
    | _ => .error (.lacks value "get")
  else .ok []

/-- The elements of a value, or of `default` if the value says nothing. -/
def elementsOr (value : Json) (default : List Json) : Except Failure.Fault (List Json) :=
  if value.isTruthy then value.elements else .ok default

def memberOr (members : List (Text × Json)) (name : Text) (default : Json) : Json :=
  (Entries.find? members name).getD default

def unexpected {α : Type} : Except Failure.Fault α → Except Failure α
  | .ok value => .ok value
  | .error fault => .error (.unexpected fault)

def ofManifest (members : List (Text × Json)) : Except Failure Volume := do
  let metadata ← unexpected (membersOf (Json.member members "metadata"))
  let name := Json.member metadata "name"
  if !name.isTruthy then
    throw (.declared (.badVolume (.text "<unnamed>") .unnamed))
  let spec ← unexpected (membersOf (Json.member members "spec"))
  let .object source := Json.member spec "cephfs"
    | throw (.declared (.badVolume name .foreignSource))
  let capacity ← unexpected (membersOf (Json.member spec "capacity"))
  let monitors ← unexpected (elementsOr (Json.member source "monitors") [])
  let secret ← unexpected (membersOf (Json.member source "secretRef"))
  let annotations ← unexpected (Mapping.ofJson (Json.member metadata "annotations"))
  let accessModes ← unexpected (elementsOr (Json.member spec "accessModes") defaultAccessModes)
  return {
    name
    capacity := .text (memberOr capacity "storage" (.text [])).display
    reclaimPolicy := memberOr spec "persistentVolumeReclaimPolicy" (.text "Delete")
    monitors
    exportPath := memberOr source "path" (.text [])
    grantedUser := memberOr source "user" (.text [])
    secretName := memberOr secret "name" (.text [])
    secretNamespace := Json.member secret "namespace"
    storageClass := Json.member spec "storageClassName"
    annotations
    accessModes }

end ShareProvisioner.Volume
