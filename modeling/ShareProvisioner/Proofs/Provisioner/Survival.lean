import ShareProvisioner.Provisioner
import ShareProvisioner.Proofs.Outside.Action
import ShareProvisioner.Proofs.Volume.Enlargement

/-!
# Deleting what the cluster kept

A deletion asks a volume for its stamp, its user and its class, and for its name only to
name it.  All of these survive in the cluster, so a volume that is read back from an
enlarged manifest is deleted just as the volume that was published.
-/

namespace ShareProvisioner

/-- Whether two volumes are one to a deletion. -/
structure Volume.DeletedAlike (volume other : Volume) : Prop where
  name : volume.name = other.name
  ownerIdentity : volume.ownerIdentity = other.ownerIdentity
  shareName : volume.shareName = other.shareName
  grantedUser : volume.grantedUser = other.grantedUser
  className : volume.className = other.className
    ∨ volume.className.isTruthy = false ∧ other.className.isTruthy = false

namespace Volume

variable {volume : Volume} {annotations : Mapping}

theorem Place.mem_annotations_names {key : AnnotationKey}
    (consulted : key ∈ [AnnotationKey.identity, .share, .storageClass]) :
    key.name ∈ Place.annotations.names := by
  unfold names reads
  rw [List.map_map]
  exact List.mem_map.mpr ⟨key, consulted, rfl⟩

theorem Annotates.annotationAt_eq (annotates : volume.Annotates annotations)
    (key : AnnotationKey) (consulted : key ∈ [AnnotationKey.identity, .share, .storageClass]) :
    { volume.reread with annotations }.annotationAt key = volume.annotationAt key :=
  congrArg (·.getD .null) (annotates.found key.name (Place.mem_annotations_names consulted))

/-- More annotations are of no account to a deletion, and neither is the difference between
a class that says nothing and none. -/
theorem Annotates.deletedAlike (annotates : volume.Annotates annotations) :
    { volume.reread with annotations }.DeletedAlike volume where
  name := rfl
  ownerIdentity := annotates.annotationAt_eq .identity (by simp)
  shareName := annotates.annotationAt_eq .share (by simp)
  grantedUser := rfl
  className := by
    unfold className
    rw [annotates.annotationAt_eq .storageClass (by simp)]
    unfold reread Json.orElse
    cases annotated : (volume.annotationAt .storageClass).isTruthy with
    | true => exact .inl (by simp)
    | false =>
        cases classed : volume.storageClass.isTruthy with
        | true => exact .inl (by simp)
        | false => exact .inr ⟨by simp [Json.isTruthy], by simp [classed]⟩

end Volume

namespace Provisioner

theorem delete_congr {volume other : Volume} (alike : volume.DeletedAlike other)
    (provisioner : Provisioner) (store : Store) :
    provisioner.delete store volume = provisioner.delete store other := by
  have verified : Ownership.verify volume provisioner.identity
      = Ownership.verify other provisioner.identity := by
    unfold Ownership.verify
    rw [alike.ownerIdentity, alike.shareName]
  unfold delete
  rw [verified, alike.name, alike.ownerIdentity, alike.shareName, alike.grantedUser]
  rcases alike.className with same | ⟨classless, otherClassless⟩
  · rw [same]
  · rw [classless, otherClassless]
    rfl

/-- Whatever the cluster has put around and beside it, a published volume of texts is read
back with no change but the annotations of others, and is deleted as if it had never been
away. -/
theorem deletes_what_cluster_kept {volume : Volume} (textual : volume.IsTextual)
    (named : volume.name ≠ .text []) {members : List (Text × Json)}
    (enlarges : Volume.Enlarges .manifest volume.manifest (.object members)) :
    ∃ base annotations, ∃ added : Mapping,
      Volume.ofManifest volume.manifestMembers = .ok base
        ∧ Volume.ofManifest members = .ok { base with annotations }
        ∧ annotations.Perm (base.annotations ++ added)
        ∧ (∀ entry ∈ added, ∀ key ∈ [AnnotationKey.identity, .share, .storageClass],
          entry.1 ≠ .text key.name)
        ∧ ∀ (provisioner : Provisioner) (store : Store) (world : World),
          Action.runIn world (provisioner.delete store { base with annotations })
            = Action.runIn world (provisioner.delete store volume) := by
  rcases Volume.ofManifest_of_enlarges textual named enlarges with
    ⟨annotations, base, read, annotates⟩
  rcases annotates.added with ⟨added, order, unread⟩
  refine ⟨volume.reread, annotations, added, base, read, order, ?_, ?_⟩
  · intro entry member key consulted
    exact unread entry member key.name (Volume.Place.mem_annotations_names consulted)
  · intro provisioner store world
    rw [delete_congr annotates.deletedAlike]

/-! ## A volume that comes back -/

def keptVolume : Volume where
  name := .text "pv"
  capacity := .text "1Gi"
  reclaimPolicy := .text "Delete"
  monitors := [.text "m"]
  exportPath := .text "/s"
  grantedUser := .text "u"
  secretName := .text "ceph-u-secret"
  annotations := [(.text AnnotationKey.identity.name, .text "one"),
    (.text AnnotationKey.share.name, .text "s")]
  accessModes := Volume.defaultAccessModes

def keptAnnotations : List (Text × Json) :=
  [("note", .text "n"),
    (AnnotationKey.share.name, .text "s"),
    (AnnotationKey.identity.name, .text "one")]

def keptMetadata : List (Text × Json) :=
  [("annotations", .object keptAnnotations),
    ("uid", .text "7"),
    ("name", .text "pv")]

def keptSpec : List (Text × Json) :=
  ("claimRef", .object [("name", .text "claim")]) :: keptVolume.specMembers

/-- The manifest of the volume with a status, an identifier, a claim and a note, and with
members moved. -/
def keptMembers : List (Text × Json) :=
  [("status", .object [("phase", .text "Bound")]),
    ("spec", .object keptSpec),
    ("metadata", .object keptMetadata),
    ("kind", .text "PersistentVolume"),
    ("apiVersion", .text "v1")]

theorem deletes_what_cluster_kept_sample :
    keptVolume.IsTextual
      ∧ keptVolume.name ≠ .text []
      ∧ Volume.Enlarges .manifest keptVolume.manifest (.object keptMembers)
      ∧ ∃ kept, Volume.ofManifest keptMembers = .ok kept
        ∧ ∀ (provisioner : Provisioner) (store : Store) (world : World),
          Action.runIn world (provisioner.delete store kept)
            = Action.runIn world (provisioner.delete store keptVolume) := by
  have textual : keptVolume.IsTextual := by
    constructor
    case monitors | accessModes | annotationValues =>
      simp [keptVolume, Volume.defaultAccessModes, Json.IsText]
    case annotationNames =>
      exact Mapping.hasTextKeys_ofMembers
        [(AnnotationKey.identity.name, .text "one"), (AnnotationKey.share.name, .text "s")]
    case secretNamespace | storageClass => exact .inl rfl
    all_goals exact ⟨_, rfl⟩
  have annotations : Volume.Enlarges .annotations keptVolume.annotations.toJson
      (.object keptAnnotations) :=
    @Volume.Enlarges.object _ _ _ [("note", .text "n")] _ (.refl _ _)
      (by decide +kernel) (by decide +kernel) (by decide +kernel)
  have metadata : Volume.Enlarges .metadata
      (.object [("name", .text "pv"), ("annotations", keptVolume.annotations.toJson)])
      (.object keptMetadata) :=
    @Volume.Enlarges.object _ _ _ [("uid", .text "7")] _
      (.cons (.same _ _) (.cons annotations (.nil _)))
      (by decide +kernel) (by decide +kernel) (by decide +kernel)
  have spec : Volume.Enlarges .spec (.object keptVolume.specMembers) (.object keptSpec) :=
    @Volume.Enlarges.object _ _ _ [("claimRef", .object [("name", .text "claim")])] _ (.refl _ _)
      (by decide +kernel) (by decide +kernel) (by decide +kernel)
  have manifest : Volume.Enlarges .manifest keptVolume.manifest (.object keptMembers) :=
    @Volume.Enlarges.object _ _ _ [("status", .object [("phase", .text "Bound")])] _
      (.cons (.same _ _) (.cons (.same _ _) (.cons metadata (.cons spec (.nil _)))))
      (by decide +kernel) (by decide +kernel) (by decide +kernel)
  have named : keptVolume.name ≠ .text [] := by decide
  rcases deletes_what_cluster_kept textual named manifest with
    ⟨_, _, _, _, read, _, _, deletes⟩
  exact ⟨textual, named, manifest, _, read, deletes⟩

end Provisioner

end ShareProvisioner
