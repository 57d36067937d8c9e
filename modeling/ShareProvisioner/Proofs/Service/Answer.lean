import ShareProvisioner.Proofs.Provisioner.Scalar
import ShareProvisioner.Service.Answer

/-!
# Answers that are sent as they are

An answer made from texts without lone surrogates can be sent, so nothing is put in its
place.
-/

namespace ShareProvisioner

namespace Json

@[simp] theorem isSendable_null : isSendable null = true := rfl

@[simp] theorem isSendable_bool (value : Bool) : isSendable (bool value) = true := rfl

@[simp] theorem isSendable_text (value : Text) : isSendable (text value) = value.isScalar := rfl

@[simp] theorem isSendable_object_nil : isSendable (object []) = true := rfl

@[simp] theorem isSendable_object_cons (name : Text) (value : Json)
    (members : List (Text × Json)) :
    isSendable (object ((name, value) :: members))
      = (name.isScalar && value.isSendable && isSendable (object members)) := rfl

theorem isSendable_array_of_texts {texts : List Text}
    (scalar : ∀ text ∈ texts, text.isScalar = true) :
    isSendable (array (texts.map .text)) = true := by
  change areSendable (texts.map .text) = true
  induction texts with
  | nil => rfl
  | cons first rest induction =>
      have restSendable := induction fun text member => scalar text (List.mem_cons_of_mem _ member)
      simp [areSendable, scalar first (by simp), restSendable]

end Json

/-! ## Volumes -/

namespace Volume

/-- Whether all parts of a volume can be sent. -/
structure IsSendable (volume : Volume) : Prop where
  name : volume.name.isSendable = true
  capacity : volume.capacity.isSendable = true
  reclaimPolicy : volume.reclaimPolicy.isSendable = true
  monitors : (Json.array volume.monitors).isSendable = true
  exportPath : volume.exportPath.isSendable = true
  grantedUser : volume.grantedUser.isSendable = true
  secretName : volume.secretName.isSendable = true
  secretNamespace : volume.secretNamespace.isSendable = true
  storageClass : volume.storageClass.isSendable = true
  annotations : volume.annotations.toJson.isSendable = true
  accessModes : (Json.array volume.accessModes).isSendable = true
  ownerIdentity : volume.ownerIdentity.isSendable = true
  shareName : volume.shareName.isSendable = true

namespace IsSendable

variable {volume : Volume}

theorem toJson (sendable : volume.IsSendable) : volume.toJson.isSendable = true := by
  simp [Volume.toJson, sendable.name, sendable.capacity, sendable.reclaimPolicy,
    sendable.monitors, sendable.exportPath, sendable.grantedUser, sendable.secretName,
    sendable.secretNamespace, sendable.storageClass, sendable.annotations, sendable.accessModes,
    sendable.ownerIdentity, sendable.shareName]

theorem manifest (sendable : volume.IsSendable) : volume.manifest.isSendable = true := by
  have secret : (Json.object volume.secretMembers).isSendable = true := by
    unfold secretMembers
    split <;> simp [sendable.secretName, sendable.secretNamespace]
  have storageClass : (Json.object volume.classMembers).isSendable = true := by
    unfold classMembers
    split <;> simp [sendable.storageClass]
  simp [Volume.manifest, manifestMembers, specMembers, sourceMembers, secret, storageClass,
    sendable.name, sendable.annotations, sendable.reclaimPolicy, sendable.accessModes,
    sendable.capacity, sendable.monitors, sendable.exportPath, sendable.grantedUser]

end IsSendable

end Volume

section Volumes

variable {provisioner : Provisioner} {claim : Claim} {volume : Volume}

theorem Provisioner.isSendable_annotations {share : Text} {storageClass : Option Text}
    (provisionerScalar : provisioner.IsScalar) (shareScalar : share.isScalar = true)
    (classScalar : ∀ className, storageClass = some className → className.isScalar = true) :
    (provisioner.annotations share storageClass).toJson.isSendable = true := by
  have names (key : AnnotationKey) : key.name.isScalar = true := by
    cases key <;> exact Text.isScalar_ofString _
  rw [Provisioner.annotations_eq]
  split
  · simp [Mapping.toJson, Key.memberName, names, provisionerScalar.identity,
      provisionerScalar.name, shareScalar]
  · simp [Mapping.toJson, Key.memberName, names, provisionerScalar.identity,
      provisionerScalar.name, shareScalar]
  · next className _ =>
      simp [Mapping.toJson, Key.memberName, names, provisionerScalar.identity,
        provisionerScalar.name, shareScalar, classScalar className rfl]

theorem Provisioner.Issues.isSendable (issues : provisioner.Issues claim volume)
    (provisionerScalar : provisioner.IsScalar) (claimScalar : claim.IsScalar) :
    volume.IsSendable := by
  cases issues with
  | @issues monitors share secret exportPath user monitorsScalar shareScalar secretScalar
      pathScalar userScalar =>
  have stamped : Volume.IsStamped (provisioner.volumeFor claim monitors share secret exportPath
      user) provisioner.identity share := volumeFor_isStamped
  exact {
    name := claimScalar.volumeName
    capacity := claimScalar.capacity
    reclaimPolicy := claimScalar.reclaimPolicy
    monitors := Json.isSendable_array_of_texts monitorsScalar
    exportPath := pathScalar
    grantedUser := userScalar
    secretName := secretScalar
    secretNamespace := claimScalar.namespaceName
    storageClass := by
      cases given : claim.storageClass with
      | none => simp [volumeFor, given]
      | some className => simp [volumeFor, given, claimScalar.storageClass className given]
    annotations :=
      isSendable_annotations provisionerScalar shareScalar claimScalar.storageClass
    accessModes := rfl
    ownerIdentity := by rw [stamped.identity]; exact provisionerScalar.identity
    shareName := by rw [stamped.share]; exact shareScalar }

end Volumes

namespace Service.Answer

theorem sent_of_isSendable {answer : Answer} (sendable : answer.body.isSendable = true) :
    answer.sent = answer := if_pos sendable

theorem isSendable_ofCause {cause : Failure.Cause} (scalar : cause.IsScalar) :
    (ofCause cause).body.isSendable = true := by
  have code : cause.kind.answer.2.isScalar = true := by
    cases cause <;> exact Text.isScalar_ofString _
  simp [ofCause, errorBody, code, scalar.message, Failure.Kind.isScalar_name]

theorem isSendable_provisioned {provisioner : Provisioner} {claim : Claim} {volume : Volume}
    (issues : provisioner.Issues claim volume) (provisionerScalar : provisioner.IsScalar)
    (claimScalar : claim.IsScalar) : (provisioned volume).body.isSendable = true := by
  have parts := issues.isSendable provisionerScalar claimScalar
  simp [provisioned, result, parts.toJson, parts.manifest]

end Service.Answer

end ShareProvisioner
