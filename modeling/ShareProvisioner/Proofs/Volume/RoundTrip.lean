import ShareProvisioner.Proofs.Volume.Enlargement

/-!
# From a volume to its manifest and back

Rendering writes an absent namespace and an empty one alike, namely not at all, and
parsing takes an empty list of access modes for none given.  A volume of texts comes back
from its manifest with these differences made good, unless it has no name.
-/

namespace ShareProvisioner.Volume

/-- The volume with an empty namespace and an empty class taken for absent, and with the
default access modes in place of none. -/
def normalized (volume : Volume) : Volume :=
  { volume with
    secretNamespace :=
      if volume.secretNamespace = .text [] then .null else volume.secretNamespace
    storageClass := if volume.storageClass = .text [] then .null else volume.storageClass
    accessModes := if volume.accessModes = [] then defaultAccessModes else volume.accessModes }

variable {volume : Volume}

/-- What is left out of a manifest is an empty text or nothing at all. -/
theorem orElse_null_of_textual {value : Json} (textual : value = .null ∨ value.IsText) :
    value.orElse .null = if value = .text [] then .null else value := by
  rcases textual with rfl | ⟨text, rfl⟩
  · rfl
  · cases text with
    | nil => rfl
    | cons first rest => rfl

theorem reread_eq_normalized (textual : volume.IsTextual) :
    volume.reread = volume.normalized := by
  rw [reread, normalized, orElse_null_of_textual textual.secretNamespace,
    orElse_null_of_textual textual.storageClass]
  simp only [List.isEmpty_iff]

/-- A volume is normal if it has no empty text for an absent one and grants some access. -/
theorem normalized_eq_self_iff : volume.normalized = volume
    ↔ volume.secretNamespace ≠ .text [] ∧ volume.storageClass ≠ .text []
      ∧ volume.accessModes ≠ [] := by
  constructor
  · intro same
    refine ⟨fun empty => ?_, fun empty => ?_, fun empty => ?_⟩
    · have absent := congrArg Volume.secretNamespace same
      simp [normalized, empty] at absent
    · have absent := congrArg Volume.storageClass same
      simp [normalized, empty] at absent
    · have modes := congrArg Volume.accessModes same
      simp [normalized, empty, defaultAccessModes] at modes
  · intro given
    rw [normalized, if_neg given.1, if_neg given.2.1, if_neg given.2.2]

/-- A volume of texts that is rendered as a manifest and parsed again is refused exactly if
its name is empty.  Otherwise it comes back in its normal form, so it comes back as it was
exactly if it is in that form already. -/
theorem manifest_round_trip (volume : Volume) (textual : volume.IsTextual) :
    ((∃ cause, ofManifest volume.manifestMembers = .error (.declared cause)
        ∧ cause.kind = .invalidVolume) ↔ volume.name = .text [])
      ∧ (volume.name ≠ .text [] → ofManifest volume.manifestMembers = .ok volume.normalized)
      ∧ (volume.name ≠ .text [] → (ofManifest volume.manifestMembers = .ok volume
          ↔ volume.secretNamespace ≠ .text [] ∧ volume.storageClass ≠ .text []
            ∧ volume.accessModes ≠ [])) := by
  have accepted (named : volume.name ≠ .text []) :
      ofManifest volume.manifestMembers = .ok volume.normalized := by
    rw [ofManifest_manifestMembers textual.isRenderable (textual.isTruthy_name named),
      reread_eq_normalized textual]
  refine ⟨⟨fun refusal => ?_, ?_⟩, accepted, fun named => ?_⟩
  · rcases refusal with ⟨cause, refused, _⟩
    by_contra named
    exact nomatch refused.symm.trans (accepted named)
  · intro unnamed
    have silent : volume.name.isTruthy = false := by rw [unnamed]; rfl
    exact ⟨_, ofManifest_manifestMembers_of_unnamed silent, rfl⟩
  · rw [accepted named, Except.ok.injEq, normalized_eq_self_iff]

/-- A volume that differs from its normal form in all three parts. -/
theorem manifest_round_trip_sample :
    let volume : Volume := {
      name := "pv-1"
      capacity := "1Gi"
      reclaimPolicy := "Delete"
      monitors := ["a:6789", ""].map Json.text
      exportPath := "/volumes/share"
      grantedUser := "user"
      secretName := "secret"
      secretNamespace := .text []
      storageClass := .text []
      annotations := [(.text "cephShare", "share")]
      accessModes := [] }
    volume.IsTextual
      ∧ ofManifest volume.manifestMembers
        = .ok { volume with
            secretNamespace := .null
            storageClass := .null
            accessModes := defaultAccessModes }
      ∧ ofManifest volume.manifestMembers ≠ .ok volume := by
  intro volume
  have textual : volume.IsTextual := {
    name := ⟨_, rfl⟩
    capacity := ⟨_, rfl⟩
    reclaimPolicy := ⟨_, rfl⟩
    monitors := by
      intro monitor member
      rcases List.mem_map.mp member with ⟨text, _, rfl⟩
      exact ⟨text, rfl⟩
    exportPath := ⟨_, rfl⟩
    grantedUser := ⟨_, rfl⟩
    secretName := ⟨_, rfl⟩
    secretNamespace := .inr ⟨_, rfl⟩
    storageClass := .inr ⟨_, rfl⟩
    annotationNames := by
      intro key member
      cases List.mem_singleton.mp member
      exact ⟨_, rfl⟩
    annotationValues := by
      intro entry member
      cases List.mem_singleton.mp member
      exact ⟨_, rfl⟩
    accessModes := nofun }
  have named : volume.name ≠ .text [] := by decide
  rcases manifest_round_trip volume textual with ⟨_, normal, same⟩
  exact ⟨textual, normal named, fun equal => ((same named).mp equal).1 rfl⟩

end ShareProvisioner.Volume
