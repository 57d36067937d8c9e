import ShareProvisioner.Proofs.Volume.Manifest

/-!
# Rendering is a normal form

A manifest from elsewhere may hold values of any kind, say nothing in many ways, and have members
that nobody reads.  Parsing it and rendering the volume does away with all that.  To parse and
render once more changes nothing, and what a deletion goes by stays as it was.
-/

namespace ShareProvisioner

/-- A value that says something has elements if it can be walked through. -/
theorem Json.ne_nil_of_elements {value : Json} {items : List Json}
    (truthy : value.isTruthy = true) (walked : value.elements = .ok items) : items ≠ [] := by
  cases value with
  | array elements | object members | text value =>
      cases walked
      simpa [isTruthy] using truthy
  | _ => cases walked

namespace Volume

variable {volume : Volume} {members : List (Text × Json)}

/-! ## Parsed volumes -/

theorem ne_nil_of_elementsOr {value : Json} {default items : List Json} (given : default ≠ [])
    (walked : elementsOr value default = .ok items) : items ≠ [] := by
  unfold elementsOr at walked
  split at walked
  · next truthy => exact Json.ne_nil_of_elements truthy walked
  · cases walked
    exact given

/-- Whatever its manifest says, a parsed volume grants some access. -/
theorem accessModes_ne_nil (parsed : ofManifest members = .ok volume) :
    volume.accessModes ≠ [] := by
  obtain ⟨parts, has, rfl⟩ := exists_parts parsed
  exact ne_nil_of_elementsOr (by decide) has.accessModes

theorem isTruthy_name (parsed : ofManifest members = .ok volume) :
    volume.name.isTruthy = true := by
  obtain ⟨parts, has, rfl⟩ := exists_parts parsed
  exact has.named

/-- A parsed volume can be rendered faithfully if its annotations were given as an object, or
not at all: only then are they named by texts. -/
theorem isRenderable_of_ofManifest
    (annotated : ((Json.object members).along ["metadata", "annotations"]).IsObjectLike)
    (parsed : ofManifest members = .ok volume) : volume.IsRenderable := by
  obtain ⟨parts, has, rfl⟩ := exists_parts parsed
  have isMapping := has.annotations
  rw [has.metadata_eq] at isMapping
  exact ⟨⟨_, rfl⟩, Mapping.hasTextKeys_of_ofJson annotated isMapping⟩

/-! ## Rendering once more -/

/-- A member that is left out if it says nothing cannot tell one such value from another. -/
theorem given_orElse_null (name : Text) (value : Json) :
    (if (value.orElse .null).isTruthy then [(name, value.orElse .null)] else [])
      = if value.isTruthy then [(name, value)] else [] := by
  rw [Json.isTruthy_orElse_null]
  split
  · next truthy => rw [Json.orElse_of_isTruthy truthy]
  · rfl

theorem secretMembers_reread (volume : Volume) :
    volume.reread.secretMembers = volume.secretMembers :=
  congrArg (List.cons _) (given_orElse_null "namespace" volume.secretNamespace)

theorem classMembers_reread (volume : Volume) :
    volume.reread.classMembers = volume.classMembers :=
  given_orElse_null "storageClassName" volume.storageClass

/-- What reading a manifest back makes of a volume cannot be told from its manifest, but for
the access that is granted by default. -/
theorem manifest_reread (granting : volume.accessModes ≠ []) :
    volume.reread.manifest = volume.manifest := by
  have modes : volume.reread.accessModes = volume.accessModes := by
    rw [reread, if_neg (by simpa using granting)]
  have source : volume.reread.sourceMembers = volume.sourceMembers := by
    rw [sourceMembers, secretMembers_reread]
    rfl
  have spec : volume.reread.specMembers = volume.specMembers := by
    rw [specMembers, modes, source, classMembers_reread]
    rfl
  rw [manifest, manifestMembers, spec]
  rfl

/-- The class of a volume survives unless it says nothing. -/
theorem className_reread (volume : Volume) :
    volume.reread.className = volume.className
      ∨ volume.reread.className.SaysNothing ∧ volume.className.SaysNothing := by
  have same : volume.reread.className
      = (volume.annotationAt .storageClass).orElse (volume.storageClass.orElse .null) := rfl
  rw [same, className]
  cases annotated : (volume.annotationAt .storageClass).isTruthy with
  | true => simp only [Json.orElse_of_isTruthy annotated, true_or]
  | false =>
      rw [Json.orElse_of_silent annotated, Json.orElse_of_silent annotated]
      cases classed : volume.storageClass.isTruthy with
      | true => exact .inl (Json.orElse_of_isTruthy classed)
      | false =>
          rw [Json.orElse_of_silent classed]
          exact .inr ⟨.null, Json.isTruthy_eq_false_iff.mp classed⟩

/-- The manifest of a volume that was parsed from any manifest, with annotations in an object or
with none, is parsed again, to a volume with the same manifest.  Owner, share and user are the
same too, and so is the class unless there is none. -/
theorem rendering_is_normal (members : List (Text × Json)) (volume : Volume)
    (annotated : ((Json.object members).along ["metadata", "annotations"]).IsObjectLike)
    (parsed : ofManifest members = .ok volume) :
    ∃ other, ofManifest volume.manifestMembers = .ok other
      ∧ other.manifest = volume.manifest
      ∧ other.ownerIdentity = volume.ownerIdentity
      ∧ other.shareName = volume.shareName
      ∧ other.grantedUser = volume.grantedUser
      ∧ (other.className = volume.className
        ∨ other.className.SaysNothing ∧ volume.className.SaysNothing) := by
  have renderable := isRenderable_of_ofManifest annotated parsed
  have again := ofManifest_manifestMembers renderable (isTruthy_name parsed)
  exact ⟨volume.reread, again, manifest_reread (accessModes_ne_nil parsed), rfl, rfl, rfl,
    className_reread volume⟩

/-- A manifest in which hardly anything is a text: numbers for the name and for the class, an
object for a list, and a capacity that is not given. -/
theorem rendering_is_normal_sample :
    let members : List (Text × Json) := [
      ("metadata", .object [("name", .integer 7), ("annotations", .null)]),
      ("spec", .object [
        ("storageClassName", .integer 0),
        ("accessModes", .text "ab"),
        ("cephfs", .object [
          ("monitors", .object [("a", .null)]),
          ("user", .array [.null]),
          ("secretRef", .object [("namespace", .bool false)])])])]
    let volume : Volume := {
      name := .integer 7
      capacity := .text []
      reclaimPolicy := "Delete"
      monitors := [.text "a"]
      exportPath := .text []
      grantedUser := .array [.null]
      secretName := .text []
      secretNamespace := .bool false
      storageClass := .integer 0
      accessModes := ["a", "b"].map Json.text }
    ofManifest members = .ok volume
      ∧ ∃ other, ofManifest volume.manifestMembers = .ok other ∧ other ≠ volume
        ∧ other.manifest = volume.manifest := by
  intro members volume
  have annotated : ((Json.object members).along ["metadata", "annotations"]).IsObjectLike :=
    .silent rfl
  have parsed : ofManifest members = .ok volume := by decide +kernel
  obtain ⟨other, again, same, _⟩ := rendering_is_normal members volume annotated parsed
  refine ⟨parsed, other, again, ?_, same⟩
  intro equal
  rw [equal] at again
  revert again
  decide +kernel

end Volume

end ShareProvisioner
