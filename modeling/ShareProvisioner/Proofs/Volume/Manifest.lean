import ShareProvisioner.Volume.Manifest
import ShareProvisioner.Proofs.Failure.Result
import ShareProvisioner.Proofs.Json.Content
import ShareProvisioner.Proofs.Mapping

/-!
# Reading a manifest back

Rendering leaves out what says nothing and parsing fills in defaults, so the volume that
is read back can differ from the rendered one only there.
-/

namespace ShareProvisioner.Volume

/-- The parts of a manifest that parsing looks at. -/
structure Parts where
  metadata : List (Text × Json)
  spec : List (Text × Json)
  source : List (Text × Json)
  capacity : List (Text × Json)
  monitors : List Json
  secret : List (Text × Json)
  annotations : Mapping
  accessModes : List Json

namespace Parts

structure Of (members : List (Text × Json)) (parts : Parts) : Prop where
  metadata : membersOf (Json.member members "metadata") = .ok parts.metadata
  named : (Json.member parts.metadata "name").isTruthy = true
  spec : membersOf (Json.member members "spec") = .ok parts.spec
  source : Json.member parts.spec "cephfs" = .object parts.source
  capacity : membersOf (Json.member parts.spec "capacity") = .ok parts.capacity
  monitors : elementsOr (Json.member parts.source "monitors") [] = .ok parts.monitors
  secret : membersOf (Json.member parts.source "secretRef") = .ok parts.secret
  annotations : Mapping.ofJson (Json.member parts.metadata "annotations") = .ok parts.annotations
  accessModes : elementsOr (Json.member parts.spec "accessModes") defaultAccessModes
    = .ok parts.accessModes

def volume (parts : Parts) : Volume where
  name := Json.member parts.metadata "name"
  capacity := .text (memberOr parts.capacity "storage" (.text [])).display
  reclaimPolicy := memberOr parts.spec "persistentVolumeReclaimPolicy" (.text "Delete")
  monitors := parts.monitors
  exportPath := memberOr parts.source "path" (.text [])
  grantedUser := memberOr parts.source "user" (.text [])
  secretName := memberOr parts.secret "name" (.text [])
  secretNamespace := Json.member parts.secret "namespace"
  storageClass := Json.member parts.spec "storageClassName"
  annotations := parts.annotations
  accessModes := parts.accessModes

end Parts

section Results

variable {α β : Type} (value : α)

private theorem unexpected_ok : unexpected (.ok value) = .ok value := rfl

private theorem bind_ok (next : α → Except Failure β) : Except.ok value >>= next = next value := rfl

end Results

/-- A manifest that has all parts publishes the volume that they describe. -/
theorem ofManifest_of_parts {members : List (Text × Json)} {parts : Parts}
    (has : parts.Of members) : ofManifest members = .ok parts.volume := by
  unfold ofManifest
  rw [has.metadata, has.spec]
  simp only [unexpected_ok, bind_ok, has.named, has.source, has.capacity, has.monitors, has.secret,
    has.annotations, has.accessModes]
  rfl

theorem ofManifest_of_unnamed {members metadata : List (Text × Json)}
    (found : membersOf (Json.member members "metadata") = .ok metadata)
    (unnamed : (Json.member metadata "name").isTruthy = false) :
    ofManifest members = .error (.declared (.badVolume (.text "<unnamed>") .unnamed)) := by
  unfold ofManifest
  rw [found]
  simp only [unexpected_ok, bind_ok, unnamed]
  rfl

/-! ## The course of parsing -/

theorem membersOf_object (members : List (Text × Json)) :
    membersOf (.object members) = .ok members := by
  cases members <;> rfl

theorem membersOf_eq_ok_iff {value : Json} {members : List (Text × Json)} :
    membersOf value = .ok members ↔ value.IsObjectLike ∧ members = value.members := by
  cases value with
  | object entries =>
      rw [membersOf_object, Except.ok.injEq]
      exact ⟨fun same => ⟨.object entries, same.symm⟩, fun ⟨_, same⟩ => same.symm⟩
  | _ =>
      unfold membersOf
      split
      · next truthy =>
          refine ⟨nofun, fun like => ?_⟩
          cases like.1 with
          | silent silent => exact nomatch truthy.symm.trans silent
      · next silent =>
          rw [Except.ok.injEq]
          exact ⟨fun same => ⟨.silent (Bool.eq_false_iff.mpr silent), same.symm⟩,
            fun like => like.2.symm⟩

theorem exists_elementsOr_iff {value : Json} {default : List Json} :
    (∃ items, elementsOr value default = .ok items) ↔ value.IsListLike := by
  rw [Json.isListLike_iff]
  unfold elementsOr Json.elements
  cases truthy : value.isTruthy with
  | false => exact ⟨fun _ => .inl rfl, fun _ => ⟨default, rfl⟩⟩
  | true =>
      cases value.elements? with
      | none => exact ⟨nofun, nofun⟩
      | some items => exact ⟨fun _ => .inr rfl, fun _ => ⟨items, rfl⟩⟩

/-- The shapes that parsing expects. -/
inductive Shape where
  | object
  | list
  | mapping
deriving DecidableEq, Repr

def Shape.Admits : Shape → Json → Prop
  | object, value => value.IsObjectLike
  | list, value => value.IsListLike
  | mapping, value => value.IsMappingLike

/-- The parts of a manifest that have to be of some shape. -/
def shapedParts : List (List Text × Shape) :=
  [(["metadata"], .object),
    (["spec"], .object),
    (["spec", "capacity"], .object),
    (["spec", "cephfs", "monitors"], .list),
    (["spec", "cephfs", "secretRef"], .object),
    (["metadata", "annotations"], .mapping),
    (["spec", "accessModes"], .list)]

def IsNamed (manifest : Json) : Prop :=
  (manifest.along ["metadata", "name"]).isTruthy = true

def HasSource (manifest : Json) : Prop :=
  ∃ members, manifest.along ["spec", "cephfs"] = .object members

/-- Whether parsing a manifest comes to a part that does not have the expected shape.  It
looks at the specification only after it has found a name, and at the parts below only
after it has found a source. -/
inductive Misshapen (manifest : Json) : Prop
  | metadata (wrong : ¬(manifest.along ["metadata"]).IsObjectLike)
  | spec (named : IsNamed manifest) (wrong : ¬(manifest.along ["spec"]).IsObjectLike)
  | part (named : IsNamed manifest) (source : HasSource manifest) {path : List Text}
      {shape : Shape} (expected : (path, shape) ∈ shapedParts)
      (wrong : ¬shape.Admits (manifest.along path))

/-- The ways in which parsing a manifest can go. -/
inductive ManifestCourse (members : List (Text × Json)) : Except Failure Volume → Prop
  | misshapen {fault : Failure.Fault} (wrong : Misshapen (.object members)) :
      ManifestCourse members (.error (.unexpected fault))
  | unnamed (metadata : ((Json.object members).along ["metadata"]).IsObjectLike)
      (unnamed : ¬IsNamed (.object members)) :
      ManifestCourse members (.error (.declared (.badVolume (.text "<unnamed>") .unnamed)))
  | foreign (metadata : ((Json.object members).along ["metadata"]).IsObjectLike)
      (named : IsNamed (.object members))
      (spec : ((Json.object members).along ["spec"]).IsObjectLike)
      (foreign : ¬HasSource (.object members)) :
      ManifestCourse members (.error (.declared (.badVolume
        ((Json.object members).along ["metadata", "name"]) .foreignSource)))
  | read {parts : Parts} (has : parts.Of members) : ManifestCourse members (.ok parts.volume)

/-- Parsing that goes on with a part is as said if it is where the part cannot be read, and
where it can be. -/
theorem unexpected_bind {α : Type} {P : Except Failure Volume → Prop}
    {first : Except Failure.Fault α} {next : α → Except Failure Volume}
    (faulty : ∀ fault, (¬∃ value, first = .ok value) → P (.error (.unexpected fault)))
    (onward : ∀ value, first = .ok value → P (next value)) : P (unexpected first >>= next) := by
  cases first with
  | error fault => exact faulty fault nofun
  | ok value => exact onward value rfl

theorem ofManifest_course (members : List (Text × Json)) :
    ManifestCourse members (ofManifest members) := by
  have unshaped {value : Json} (unread : ¬∃ members, membersOf value = .ok members) :
      ¬value.IsObjectLike :=
    fun like => unread ⟨_, membersOf_eq_ok_iff.mpr ⟨like, rfl⟩⟩
  unfold ofManifest
  refine unexpected_bind (fun _ unread => .misshapen (.metadata (unshaped unread))) ?_
  intro metadata isMetadata
  rcases membersOf_eq_ok_iff.mp isMetadata with ⟨metadataLike, rfl⟩
  cases isNamed : (Json.member (Json.member members "metadata").members "name").isTruthy with
  | false =>
      have unnamed : ¬IsNamed (.object members) := Bool.eq_false_iff.mp isNamed
      simp only [isNamed, Bool.not_false, if_true]
      exact .unnamed metadataLike unnamed
  | true =>
      have named : IsNamed (.object members) := isNamed
      simp only [isNamed, Bool.not_true, Bool.false_eq_true, if_false]
      refine unexpected_bind (fun _ unread => .misshapen (.spec named (unshaped unread))) ?_
      intro spec isSpec
      rcases membersOf_eq_ok_iff.mp isSpec with ⟨specLike, rfl⟩
      split
      · next source isSource =>
          have hasSource : HasSource (.object members) := ⟨source, isSource⟩
          have misshapen (path : List Text) (shape : Shape)
              (expected : (path, shape) ∈ shapedParts)
              (wrong : ¬shape.Admits ((Json.object members).along path)) {fault : Failure.Fault} :
              ManifestCourse members (.error (.unexpected fault)) :=
            .misshapen (.part named hasSource expected wrong)
          obtain rfl : source = ((Json.object members).along ["spec", "cephfs"]).members :=
            (congrArg Json.members isSource).symm
          refine unexpected_bind (fun _ unread => misshapen ["spec", "capacity"] .object
            (by decide) (unshaped unread)) fun capacity isCapacity => ?_
          refine unexpected_bind (fun _ unread => misshapen ["spec", "cephfs", "monitors"] .list
            (by decide) (mt exists_elementsOr_iff.mpr unread)) fun monitors isMonitors => ?_
          refine unexpected_bind (fun _ unread => misshapen ["spec", "cephfs", "secretRef"] .object
            (by decide) (unshaped unread)) fun secret isSecret => ?_
          refine unexpected_bind (fun _ unread => misshapen ["metadata", "annotations"] .mapping
            (by decide) (mt Mapping.exists_ofJson_iff.mpr unread)) fun annotations isMapping => ?_
          refine unexpected_bind (fun _ unread => misshapen ["spec", "accessModes"] .list
            (by decide) (mt exists_elementsOr_iff.mpr unread)) fun accessModes isModes => ?_
          let parts : Parts := {
            metadata := ((Json.object members).along ["metadata"]).members
            spec := ((Json.object members).along ["spec"]).members
            source := ((Json.object members).along ["spec", "cephfs"]).members
            capacity, monitors, secret, annotations, accessModes }
          have has : parts.Of members := ⟨isMetadata, isNamed, isSpec, isSource, isCapacity,
            isMonitors, isSecret, isMapping, isModes⟩
          exact .read has
      · next foreign =>
          exact .foreign metadataLike named specLike fun ⟨source, isSource⟩ =>
            foreign source isSource

/-- Only a manifest that has all parts publishes a volume. -/
theorem exists_parts {members : List (Text × Json)} {volume : Volume}
    (read : ofManifest members = .ok volume) :
    ∃ parts : Parts, parts.Of members ∧ volume = parts.volume := by
  have course := ofManifest_course members
  rw [read] at course
  cases course with
  | read has => exact ⟨_, has, rfl⟩

/-- A manifest is refused for the lack of a name or of a source; whatever else is wrong
with it is unexpected. -/
theorem refusal_of_ofManifest {members : List (Text × Json)} {cause : Failure.Cause}
    (refused : ofManifest members = .error (.declared cause)) :
    cause = .badVolume (.text "<unnamed>") .unnamed
      ∨ ∃ metadata, membersOf (Json.member members "metadata") = .ok metadata
          ∧ cause = .badVolume (Json.member metadata "name") .foreignSource := by
  have course := ofManifest_course members
  rw [refused] at course
  cases course with
  | unnamed metadata unnamed => exact .inl rfl
  | foreign metadata named spec foreign =>
      exact .inr ⟨_, membersOf_eq_ok_iff.mpr ⟨metadata, rfl⟩, rfl⟩

section Shapes

variable {members : List (Text × Json)} {parts : Parts}

theorem Parts.Of.metadata_eq (has : parts.Of members) :
    parts.metadata = (Json.member members "metadata").members :=
  (membersOf_eq_ok_iff.mp has.metadata).2

theorem Parts.Of.spec_eq (has : parts.Of members) :
    parts.spec = (Json.member members "spec").members :=
  (membersOf_eq_ok_iff.mp has.spec).2

theorem Parts.Of.isNamed (has : parts.Of members) : IsNamed (.object members) := by
  have named := has.named
  rw [has.metadata_eq] at named
  exact named

theorem Parts.Of.source_eq (has : parts.Of members) :
    (Json.object members).along ["spec", "cephfs"] = .object parts.source := by
  have source := has.source
  rw [has.spec_eq] at source
  exact source

/-- A manifest that has all parts has them in the expected shapes. -/
theorem Parts.Of.admits (has : parts.Of members) :
    ∀ part ∈ shapedParts, part.2.Admits ((Json.object members).along part.1) := by
  have below (name : Text) : (Json.object members).along ["spec", "cephfs", name]
      = Json.member parts.source name :=
    congrArg (fun source : Json => Json.member source.members name) has.source_eq
  have capacity := (membersOf_eq_ok_iff.mp has.capacity).1
  have modes := exists_elementsOr_iff.mp ⟨_, has.accessModes⟩
  have annotations := Mapping.exists_ofJson_iff.mp ⟨_, has.annotations⟩
  have monitors := exists_elementsOr_iff.mp ⟨_, has.monitors⟩
  have secret := (membersOf_eq_ok_iff.mp has.secret).1
  rw [has.spec_eq] at capacity modes
  rw [has.metadata_eq] at annotations
  rw [← below] at monitors secret
  simp only [shapedParts, List.forall_mem_cons]
  exact ⟨(membersOf_eq_ok_iff.mp has.metadata).1, (membersOf_eq_ok_iff.mp has.spec).1, capacity,
    monitors, secret, annotations, modes, nofun⟩

/-- All other courses rule out that the manifest is misshapen. -/
theorem ManifestCourse.faults_of_misshapen {outcome : Except Failure Volume}
    (course : ManifestCourse members outcome) (wrong : Misshapen (.object members)) :
    ∃ fault, outcome = .error (.unexpected fault) := by
  cases course with
  | misshapen _ => exact ⟨_, rfl⟩
  | unnamed metadata unnamed =>
      cases wrong with
      | metadata wrong => exact absurd metadata wrong
      | spec named _ | part named => exact absurd named unnamed
  | foreign metadata named spec foreign =>
      cases wrong with
      | metadata wrong => exact absurd metadata wrong
      | spec _ wrong => exact absurd spec wrong
      | part _ source => exact absurd source foreign
  | read has =>
      have shaped := has.admits
      cases wrong with
      | metadata wrong => exact absurd (shaped (["metadata"], .object) (by decide)) wrong
      | spec _ wrong => exact absurd (shaped (["spec"], .object) (by decide)) wrong
      | part _ _ expected wrong => exact absurd (shaped _ expected) wrong

/-- Parsing meets a fault in just the manifests that are misshapen. -/
theorem ofManifest_faults_iff (members : List (Text × Json)) :
    (∃ fault, ofManifest members = .error (.unexpected fault)) ↔ Misshapen (.object members) := by
  have course := ofManifest_course members
  constructor
  · intro faults
    rcases faults with ⟨fault, faulted⟩
    rw [faulted] at course
    cases course with
    | misshapen wrong => exact wrong
  · exact course.faults_of_misshapen

/-- Parsing succeeds in just the manifests that have a name, a source and the expected
shapes. -/
theorem ofManifest_reads_iff (members : List (Text × Json)) :
    (∃ volume, ofManifest members = .ok volume)
      ↔ IsNamed (.object members) ∧ HasSource (.object members)
        ∧ ¬Misshapen (.object members) := by
  have course := ofManifest_course members
  constructor
  · intro reads
    rcases reads with ⟨volume, read⟩
    rw [read] at course
    refine ⟨?_, ?_, fun wrong => ?_⟩
    · cases course with
      | read has => exact has.isNamed
    · cases course with
      | read has => exact ⟨_, has.source_eq⟩
    · rcases course.faults_of_misshapen wrong with ⟨fault, faulted⟩
      cases faulted
  · intro good
    rcases good with ⟨named, source, shaped⟩
    generalize ofManifest members = outcome at course
    cases course with
    | misshapen wrong => exact absurd wrong shaped
    | unnamed _ unnamed => exact absurd named unnamed
    | foreign _ _ _ foreign => exact absurd source foreign
    | read has => exact ⟨_, rfl⟩

end Shapes

/-! ## Rendered manifests -/

/-- Whether a volume can be read back from its manifest apart from its name: its
capacity is a text, and so are the names of its annotations. -/
structure IsRenderable (volume : Volume) : Prop where
  capacity : ∃ text, volume.capacity = .text text
  annotations : volume.annotations.HasTextKeys

/-- The volume that the manifest of a volume publishes. -/
def reread (volume : Volume) : Volume :=
  { volume with
    secretNamespace := volume.secretNamespace.orElse .null
    storageClass := volume.storageClass.orElse .null
    accessModes := if volume.accessModes.isEmpty then defaultAccessModes else volume.accessModes }

theorem elementsOr_array (items default : List Json) :
    elementsOr (.array items) default = .ok (if items.isEmpty then default else items) := by
  cases items <;> rfl

theorem member_secretMembers_namespace (volume : Volume) :
    Json.member volume.secretMembers "namespace" = volume.secretNamespace.orElse .null := by
  unfold secretMembers Json.orElse
  split <;> rfl

theorem member_specMembers_class (volume : Volume) :
    Json.member volume.specMembers "storageClassName" = volume.storageClass.orElse .null := by
  unfold specMembers classMembers Json.orElse
  split <;> rfl

def parts (volume : Volume) : Parts where
  metadata := [("name", volume.name), ("annotations", volume.annotations.toJson)]
  spec := volume.specMembers
  source := volume.sourceMembers
  capacity := [("storage", volume.capacity)]
  monitors := volume.monitors
  secret := volume.secretMembers
  annotations := volume.annotations
  accessModes := if volume.accessModes.isEmpty then defaultAccessModes else volume.accessModes

theorem parts_of_manifestMembers {volume : Volume} (renderable : volume.IsRenderable)
    (named : volume.name.isTruthy = true) : volume.parts.Of volume.manifestMembers where
  metadata := rfl
  named := named
  spec := rfl
  source := rfl
  capacity := rfl
  monitors := by
    have same : (if volume.monitors.isEmpty then [] else volume.monitors) = volume.monitors := by
      cases volume.monitors <;> rfl
    exact (elementsOr_array volume.monitors []).trans (congrArg Except.ok same)
  secret := membersOf_object _
  annotations := Mapping.ofJson_toJson renderable.annotations
  accessModes := elementsOr_array volume.accessModes _

/-- A rendered volume with a name is read back. -/
theorem ofManifest_manifestMembers {volume : Volume} (renderable : volume.IsRenderable)
    (named : volume.name.isTruthy = true) :
    ofManifest volume.manifestMembers = .ok volume.reread := by
  rw [ofManifest_of_parts (parts_of_manifestMembers renderable named)]
  rcases renderable.capacity with ⟨text, isText⟩
  have capacity : Json.text volume.capacity.display = volume.capacity := by rw [isText]; rfl
  have same : volume.parts.volume = volume.reread := by
    unfold Parts.volume reread
    rw [Volume.mk.injEq]
    exact ⟨rfl, capacity, rfl, rfl, rfl, rfl, rfl, member_secretMembers_namespace volume,
      member_specMembers_class volume, rfl, rfl⟩
  rw [same]

theorem ofManifest_manifestMembers_of_unnamed {volume : Volume}
    (unnamed : volume.name.isTruthy = false) :
    ofManifest volume.manifestMembers
      = .error (.declared (.badVolume (.text "<unnamed>") .unnamed)) :=
  @ofManifest_of_unnamed _ volume.parts.metadata rfl unnamed

theorem eq_reread {volume other : Volume} (renderable : volume.IsRenderable)
    (read : ofManifest volume.manifestMembers = .ok other) : other = volume.reread := by
  cases named : volume.name.isTruthy with
  | true => exact Except.ok.inj (read.symm.trans (ofManifest_manifestMembers renderable named))
  | false => exact nomatch read.symm.trans (ofManifest_manifestMembers_of_unnamed named)

end ShareProvisioner.Volume
