import ShareProvisioner.Provisioner
import ShareProvisioner.Proofs.Volume.Manifest
import ShareProvisioner.Proofs.Volume.Ownership

/-!
# What a published volume says

The annotations of a volume are all texts under texts, so the volume can be read back
from its manifest, and what is read back bears the stamp of its provisioner.
-/

namespace ShareProvisioner

theorem Volume.IsStamped.reread {volume : Volume} {identity share : Text}
    (stamped : volume.IsStamped identity share) : volume.reread.IsStamped identity share :=
  ⟨stamped.identity, stamped.share⟩

namespace Provisioner

section Annotations

variable (provisioner : Provisioner) (share : Text) (storageClass : Option Text)

def recordedAt (provisioner : Provisioner) (share : Text) (storageClass : Option Text) :
    AnnotationKey → Json
  | .identity => .text provisioner.identity
  | .share => .text share
  | .provisionedBy => .text provisioner.name
  | .storageClass => match storageClass with
      | none | some [] => .null
      | some className => .text className

theorem find?_stamp (identity : Text) (key : AnnotationKey) :
    (Ownership.stamp identity share).find? (.text key.name)
      = if .identity = key then some (.text identity)
        else if .share = key then some (.text share) else none := by
  simp [Ownership.stamp, Entries.find?_cons, AnnotationKey.name_injective.eq_iff]

theorem find?_annotations (key : AnnotationKey) :
    ((provisioner.annotations share storageClass).find? (.text key.name)).getD .null
      = provisioner.recordedAt share storageClass key := by
  have written (mapping : Mapping) (other : AnnotationKey) (value : Json) :
      (Entries.insert mapping (.text other.name) value).find? (.text key.name)
        = if other = key then some value else Entries.find? mapping (.text key.name) := by
    simp [Entries.find?_insert, AnnotationKey.name_injective.eq_iff]
  unfold annotations
  dsimp only
  split
  · rw [written, find?_stamp]
    cases key <;> rfl
  · rw [written, find?_stamp]
    cases key <;> rfl
  · rw [written, written, find?_stamp]
    cases key <;> simp [recordedAt]

theorem annotations_eq :
    provisioner.annotations share storageClass
      = (.text AnnotationKey.identity.name, .text provisioner.identity)
        :: (.text AnnotationKey.share.name, .text share)
        :: (.text AnnotationKey.provisionedBy.name, .text provisioner.name)
        :: match storageClass with
          | none | some [] => []
          | some className => [(.text AnnotationKey.storageClass.name, .text className)] := by
  cases storageClass with
  | none => rfl
  | some className => cases className <;> rfl

theorem annotations_hasTextKeys :
    (provisioner.annotations share storageClass).HasTextKeys := by
  have stamped : Mapping.HasTextKeys (Ownership.stamp provisioner.identity share) :=
    Mapping.hasTextKeys_ofMembers [(AnnotationKey.identity.name, .text provisioner.identity),
      (AnnotationKey.share.name, .text share)]
  unfold annotations
  dsimp only
  split
  · exact stamped.insert _ _
  · exact stamped.insert _ _
  · exact (stamped.insert _ _).insert _ _

end Annotations

section Volume

variable {provisioner : Provisioner} {claim : Claim} {monitors : List Text}
  {share secret exportPath user : Text}

theorem volumeFor_isRenderable :
    (provisioner.volumeFor claim monitors share secret exportPath user).IsRenderable where
  capacity := ⟨claim.capacity, rfl⟩
  annotations := provisioner.annotations_hasTextKeys share claim.storageClass

theorem volumeFor_isStamped :
    (provisioner.volumeFor claim monitors share secret exportPath user).IsStamped
      provisioner.identity share where
  identity := provisioner.find?_annotations share claim.storageClass .identity
  share := provisioner.find?_annotations share claim.storageClass .share

/-- A volume with a name is read back from its manifest. -/
theorem ofManifest_volumeFor (named : claim.volumeName ≠ []) :
    Volume.ofManifest
        (provisioner.volumeFor claim monitors share secret exportPath user).manifestMembers
      = .ok (provisioner.volumeFor claim monitors share secret exportPath user).reread := by
  refine Volume.ofManifest_manifestMembers volumeFor_isRenderable ?_
  simpa [volumeFor] using named

theorem className_reread_of_class {className : Text}
    (given : claim.storageClass = some className) (nonempty : className ≠ []) :
    (provisioner.volumeFor claim monitors share secret exportPath user).reread.className
      = .text className := by
  have recorded : (provisioner.volumeFor claim monitors share secret exportPath
      user).reread.annotationAt .storageClass = .text className := by
    refine (provisioner.find?_annotations share claim.storageClass .storageClass).trans ?_
    cases className with
    | nil => exact absurd rfl nonempty
    | cons first rest => rw [given]; rfl
  unfold Volume.className
  rw [recorded]
  exact Json.orElse_of_isTruthy (by simpa using nonempty)

theorem className_reread_of_classless
    (classless : claim.storageClass = none ∨ claim.storageClass = some []) :
    (provisioner.volumeFor claim monitors share secret exportPath user).reread.className
      = .null := by
  have recorded : (provisioner.volumeFor claim monitors share secret exportPath
      user).reread.annotationAt .storageClass = .null := by
    refine (provisioner.find?_annotations share claim.storageClass .storageClass).trans ?_
    rcases classless with none | empty
    · rw [none]; rfl
    · rw [empty]; rfl
  have field : (provisioner.volumeFor claim monitors share secret exportPath
      user).reread.storageClass = .null := by
    rcases classless with none | empty
    · simp [volumeFor, Volume.reread, none, Json.orElse]
    · simp [volumeFor, Volume.reread, empty, Json.orElse]
  unfold Volume.className
  rw [recorded, field]
  rfl

end Volume

end Provisioner

end ShareProvisioner
