import ShareProvisioner.Proofs.Volume.Manifest

/-!
# Enlarged manifests

A cluster keeps a published object, but it does not keep it as it was written: members
change their order, and others join them, such as a status, an identifier or annotations
of other parties.  `Enlarges` says which manifests can come back in this way.  Parsing
finds in them what it finds in the manifest that was written, and more annotations.
-/

namespace ShareProvisioner

namespace Json

/-- Whether a value has no members. -/
def IsLeaf (value : Json) : Prop :=
  ∀ members, value ≠ .object members

theorem IsText.isLeaf {value : Json} (isText : value.IsText) : value.IsLeaf := by
  rcases isText with ⟨text, rfl⟩
  exact fun _ => nofun

end Json

namespace Volume

/-- The places in a manifest, told apart as far as parsing looks into them. -/
inductive Place where
  | manifest
  | metadata
  | annotations
  | spec
  | capacity
  | source
  | secret
  | leaf
deriving DecidableEq, Repr

namespace Place

/-- The names that are looked up in the object at a place, each with the place of its
value.  Of the annotations these are the ones that a deletion looks at. -/
def reads : Place → List (Text × Place)
  | manifest => [("metadata", metadata), ("spec", spec)]
  | metadata => [("name", leaf), ("annotations", annotations)]
  | annotations =>
      [AnnotationKey.identity, .share, .storageClass].map fun key => (key.name, leaf)
  | spec =>
      [("persistentVolumeReclaimPolicy", leaf),
        ("accessModes", leaf),
        ("capacity", capacity),
        ("cephfs", source),
        ("storageClassName", leaf)]
  | capacity => [("storage", leaf)]
  | source => [("monitors", leaf), ("path", leaf), ("user", leaf), ("secretRef", secret)]
  | secret => [("name", leaf), ("namespace", leaf)]
  | leaf => []

def names (place : Place) : List Text :=
  place.reads.map Prod.fst

/-- The place of the member of the given name. -/
def below (place : Place) (name : Text) : Place :=
  (Entries.find? place.reads name).getD leaf

end Place

mutual

/-- Whether the second value comes from the first, which stands at the given place, by
putting members in another order and by adding members that are not looked up there. -/
inductive Enlarges : Place → Json → Json → Prop
  | same (place : Place) (value : Json) : Enlarges place value value
  | object {place : Place} {members grown added result : List (Text × Json)}
      (each : EnlargesEach place members grown)
      (order : result.Perm (grown ++ added))
      (unread : ∀ entry ∈ added, entry.1 ∉ place.names)
      (distinct : (result.map Prod.fst).Nodup) :
      Enlarges place (.object members) (.object result)

/-- Whether the values of members are enlarged one by one. -/
inductive EnlargesEach : Place → List (Text × Json) → List (Text × Json) → Prop
  | nil (place : Place) : EnlargesEach place [] []
  | cons {place : Place} {name : Text} {value grown : Json}
      {members others : List (Text × Json)}
      (first : Enlarges (place.below name) value grown)
      (rest : EnlargesEach place members others) :
      EnlargesEach place ((name, value) :: members) ((name, grown) :: others)

end

/-! ## Looking up members -/

theorem Enlarges.eq_of_leaf {place : Place} {value grown : Json}
    (enlarges : Enlarges place value grown) (leaf : value.IsLeaf) :
    grown = value := by
  cases enlarges with
  | same => rfl
  | object => exact absurd rfl (leaf _)

theorem EnlargesEach.refl (place : Place) (members : List (Text × Json)) :
    EnlargesEach place members members := by
  induction members with
  | nil => exact .nil place
  | cons entry rest induction => exact .cons (.same _ entry.2) induction

theorem EnlargesEach.find? {place : Place} {members grown : List (Text × Json)}
    (each : EnlargesEach place members grown) (name : Text) :
    Option.Rel (Enlarges (place.below name)) (Entries.find? members name)
      (Entries.find? grown name) := by
  induction members generalizing grown with
  | nil =>
      cases each
      exact .none
  | cons entry rest induction =>
      cases each with
      | @cons _ first value other _ others enlarges restEach =>
      rw [Entries.find?_cons, Entries.find?_cons]
      by_cases matching : first == name
      · cases eq_of_beq matching
        rw [if_pos matching, if_pos matching]
        exact .some enlarges
      · rw [if_neg matching, if_neg matching]
        exact induction restEach

/-- Values without members are enlarged to themselves. -/
theorem EnlargesEach.eq_of_leaves {place : Place} {members grown : List (Text × Json)}
    (each : EnlargesEach place members grown)
    (leaves : ∀ entry ∈ members, entry.2.IsLeaf) : grown = members := by
  induction members generalizing grown with
  | nil =>
      cases each
      rfl
  | cons entry rest induction =>
      cases each with
      | cons first restEach =>
      have same := first.eq_of_leaf (leaves _ List.mem_cons_self)
      have restSame := induction restEach fun other member =>
        leaves other (List.mem_cons_of_mem _ member)
      rw [same, restSame]

/-- Whether all that is looked up at a place is found enlarged in other members. -/
def Place.Keeps (place : Place) (members others : List (Text × Json)) : Prop :=
  ∀ name ∈ place.names, Option.Rel (Enlarges (place.below name)) (Entries.find? members name)
    (Entries.find? others name)

/-- An object is enlarged to an object that keeps what is looked up. -/
theorem Enlarges.exists_keeps {place : Place} {members : List (Text × Json)} {value : Json}
    (enlarges : Enlarges place (.object members) value) :
    ∃ others, value = .object others ∧ place.Keeps members others := by
  cases enlarges with
  | same =>
      exact ⟨members, rfl, fun name _ => (EnlargesEach.refl place members).find? name⟩
  | @object _ _ grown added result each order unread distinct =>
      refine ⟨result, rfl, fun name known => ?_⟩
      have absent : name ∉ added.map Prod.fst := by
        intro member
        rcases List.mem_map.mp member with ⟨entry, isAdded, rfl⟩
        exact unread entry isAdded known
      rw [Entries.find?_of_perm order distinct, Entries.find?_append,
        Entries.find?_eq_none absent, Option.or_none]
      exact each.find? name

/-- An object of leaves is enlarged by more members and in no other way. -/
theorem Enlarges.exists_added {place : Place} {members others : List (Text × Json)}
    (enlarges : Enlarges place (.object members) (.object others))
    (leaves : ∀ entry ∈ members, entry.2.IsLeaf) :
    ∃ added, others.Perm (members ++ added) ∧ ∀ entry ∈ added, entry.1 ∉ place.names := by
  cases enlarges with
  | same => exact ⟨[], by simp, by simp⟩
  | object each order unread distinct =>
      cases each.eq_of_leaves leaves
      exact ⟨_, order, unread⟩

namespace Place.Keeps

variable {place : Place} {members others : List (Text × Json)}

theorem find?_eq_of_leaf (keeps : place.Keeps members others) (name : Text)
    (known : name ∈ place.names) (leaf : ∀ value ∈ Entries.find? members name, value.IsLeaf) :
    Entries.find? others name = Entries.find? members name := by
  have related := keeps name known
  generalize Entries.find? members name = found at related leaf
  generalize Entries.find? others name = other at related
  cases related with
  | none => rfl
  | some enlarges => exact congrArg some (enlarges.eq_of_leaf (leaf _ rfl))

theorem find?_eq_of_some (keeps : place.Keeps members others) (name : Text)
    (known : name ∈ place.names) {value : Json}
    (found : Entries.find? members name = some value) (leaf : value.IsLeaf) :
    Entries.find? others name = Entries.find? members name := by
  refine keeps.find?_eq_of_leaf name known fun other isFound => ?_
  cases found.symm.trans isFound
  exact leaf

theorem exists_object (keeps : place.Keeps members others) (name : Text)
    (known : name ∈ place.names) {inner : List (Text × Json)}
    (found : Entries.find? members name = some (.object inner)) :
    ∃ grown, Entries.find? others name = some (.object grown)
      ∧ Enlarges (place.below name) (.object inner) (.object grown)
      ∧ (place.below name).Keeps inner grown := by
  have related := keeps name known
  rw [found] at related
  generalize Entries.find? others name = other at related
  cases related with
  | some enlarges =>
  rcases enlarges.exists_keeps with ⟨grown, rfl, inside⟩
  exact ⟨grown, rfl, enlarges, inside⟩

end Place.Keeps

/-! ## Volumes of texts -/

/-- Whether a volume holds texts only, apart from a namespace and a class that it lacks. -/
structure IsTextual (volume : Volume) : Prop where
  name : volume.name.IsText
  capacity : volume.capacity.IsText
  reclaimPolicy : volume.reclaimPolicy.IsText
  monitors : ∀ monitor ∈ volume.monitors, monitor.IsText
  exportPath : volume.exportPath.IsText
  grantedUser : volume.grantedUser.IsText
  secretName : volume.secretName.IsText
  secretNamespace : volume.secretNamespace = .null ∨ volume.secretNamespace.IsText
  storageClass : volume.storageClass = .null ∨ volume.storageClass.IsText
  annotationNames : volume.annotations.HasTextKeys
  annotationValues : ∀ entry ∈ volume.annotations, entry.2.IsText
  accessModes : ∀ mode ∈ volume.accessModes, mode.IsText

variable {volume : Volume}

theorem IsTextual.isRenderable (textual : volume.IsTextual) : volume.IsRenderable :=
  ⟨textual.capacity, textual.annotationNames⟩

theorem IsTextual.isTruthy_name (textual : volume.IsTextual) (named : volume.name ≠ .text []) :
    volume.name.isTruthy = true := by
  rcases textual.name with ⟨name, isName⟩
  rw [isName] at named ⊢
  simpa using named

theorem member_congr {members others : List (Text × Json)} {name : Text}
    (same : Entries.find? others name = Entries.find? members name) :
    Json.member others name = Json.member members name :=
  congrArg (·.getD .null) same

theorem memberOr_congr {members others : List (Text × Json)} {name : Text}
    (same : Entries.find? others name = Entries.find? members name) (default : Json) :
    memberOr others name default = memberOr members name default :=
  congrArg (·.getD default) same

/-- The member that is left out if it says nothing is a leaf where there is one. -/
theorem isLeaf_of_truthy_member {name : Text} {value : Json}
    (textual : value = .null ∨ value.IsText) :
    ∀ found ∈ Entries.find? (if value.isTruthy then [(name, value)] else []) name,
      found.IsLeaf := by
  intro found isFound
  rcases textual with rfl | isText
  · cases isFound
  · split at isFound
    · rw [Entries.find?_cons, if_pos BEq.rfl] at isFound
      cases isFound
      exact isText.isLeaf
    · cases isFound

/-- Whether parts hold what the parts of a volume hold where parsing looks, apart from
their annotations. -/
structure Regrows (volume : Volume) (parts : Parts) : Prop where
  metadata : Place.metadata.Keeps volume.parts.metadata parts.metadata
  spec : Place.spec.Keeps volume.parts.spec parts.spec
  source : Place.source.Keeps volume.parts.source parts.source
  capacity : Place.capacity.Keeps volume.parts.capacity parts.capacity
  secret : Place.secret.Keeps volume.parts.secret parts.secret
  monitors : parts.monitors = volume.parts.monitors
  accessModes : parts.accessModes = volume.parts.accessModes

namespace Regrows

variable {parts : Parts}

theorem name_eq (regrows : Regrows volume parts) (textual : volume.IsTextual) :
    Json.member parts.metadata "name" = volume.name :=
  member_congr (regrows.metadata.find?_eq_of_some "name" (by decide) rfl textual.name.isLeaf)

theorem volume_eq (regrows : Regrows volume parts) (textual : volume.IsTextual) :
    parts.volume = { volume.parts.volume with annotations := parts.annotations } := by
  have storage := regrows.capacity.find?_eq_of_some "storage" (by decide) rfl
    textual.capacity.isLeaf
  have policy := regrows.spec.find?_eq_of_some "persistentVolumeReclaimPolicy"
    (by decide) rfl textual.reclaimPolicy.isLeaf
  have path := regrows.source.find?_eq_of_some "path" (by decide) rfl
    textual.exportPath.isLeaf
  have user := regrows.source.find?_eq_of_some "user" (by decide) rfl
    textual.grantedUser.isLeaf
  have secretName := regrows.secret.find?_eq_of_some "name" (by decide) rfl
    textual.secretName.isLeaf
  have secretNamespace := regrows.secret.find?_eq_of_leaf "namespace" (by decide)
    (isLeaf_of_truthy_member textual.secretNamespace)
  have storageClass := regrows.spec.find?_eq_of_leaf "storageClassName" (by decide)
    (isLeaf_of_truthy_member textual.storageClass)
  unfold Parts.volume
  rw [Volume.mk.injEq]
  exact ⟨regrows.name_eq textual, by rw [memberOr_congr storage], memberOr_congr policy _,
    regrows.monitors, memberOr_congr path _, memberOr_congr user _, memberOr_congr secretName _,
    member_congr secretNamespace, member_congr storageClass, rfl, regrows.accessModes⟩

end Regrows

/-- Whether annotations are those of a volume with others added to them, none of which a
deletion looks at. -/
structure Annotates (volume : Volume) (annotations : Mapping) : Prop where
  added : ∃ added : Mapping, annotations.Perm (volume.annotations ++ added)
    ∧ ∀ entry ∈ added, ∀ name ∈ Place.annotations.names, entry.1 ≠ .text name
  found : ∀ name ∈ Place.annotations.names,
    annotations.find? (.text name) = volume.annotations.find? (.text name)

theorem annotates_of_enlarges (textual : volume.IsTextual) {written others : List (Text × Json)}
    (isWritten : volume.annotations.toJson = .object written)
    (enlarges : Enlarges .annotations (.object written) (.object others))
    (keeps : Place.annotations.Keeps written others) :
    volume.Annotates (Mapping.ofMembers others) := by
  cases isWritten
  have leaves : ∀ entry ∈ volume.annotations.map fun entry => (entry.1.memberName, entry.2),
      entry.2.IsLeaf := by
    intro entry member
    rcases List.mem_map.mp member with ⟨original, isOriginal, rfl⟩
    exact (textual.annotationValues original isOriginal).isLeaf
  have original := Mapping.ofMembers_memberNames textual.annotationNames
  constructor
  · rcases enlarges.exists_added leaves with ⟨added, order, unread⟩
    refine ⟨Mapping.ofMembers added, ?_, ?_⟩
    · have mapped := order.map fun (entry : Text × Json) => (Key.text entry.1, entry.2)
      rw [List.map_append] at mapped
      exact original ▸ mapped
    · intro entry member name known equal
      rcases List.mem_map.mp member with ⟨addition, isAdded, rfl⟩
      cases equal
      exact unread addition isAdded known
  · intro name known
    have kept := keeps.find?_eq_of_leaf name known fun value found => by
      rcases Entries.mem_of_find? found with ⟨present, _, member⟩
      exact leaves _ member
    rw [Mapping.find?_ofMembers, kept, ← Mapping.find?_ofMembers, original]

theorem membersOf_member {members inner : List (Text × Json)} {name : Text}
    (found : Entries.find? members name = some (.object inner)) :
    membersOf (Json.member members name) = .ok inner := by
  rw [Json.member, found]
  exact membersOf_object inner

/-- An enlarged manifest has all parts of the manifest that it comes from. -/
theorem exists_parts_of_enlarges (textual : volume.IsTextual) (named : volume.name ≠ .text [])
    {members : List (Text × Json)}
    (enlarges : Enlarges .manifest volume.manifest (.object members)) :
    ∃ parts : Parts, parts.Of members ∧ Regrows volume parts
      ∧ volume.Annotates parts.annotations := by
  rcases enlarges.exists_keeps with ⟨_, same, keeps⟩
  cases same
  -- From the outside in: each object that parsing looks into is found as an object.
  rcases keeps.exists_object "metadata" (by decide) rfl with
    ⟨metadata, isMetadata, _, keepsMetadata⟩
  rcases keeps.exists_object "spec" (by decide) rfl with ⟨spec, isSpec, _, keepsSpec⟩
  rcases keepsMetadata.exists_object "annotations" (by decide) rfl with
    ⟨annotations, isAnnotations, enlargesAnnotations, keepsAnnotations⟩
  rcases keepsSpec.exists_object "capacity" (by decide) rfl with
    ⟨capacity, isCapacity, _, keepsCapacity⟩
  rcases keepsSpec.exists_object "cephfs" (by decide) rfl with
    ⟨source, isSource, _, keepsSource⟩
  rcases keepsSource.exists_object "secretRef" (by decide) rfl with
    ⟨secret, isSecret, _, keepsSecret⟩
  have monitors := keepsSource.find?_eq_of_some "monitors" (by decide) rfl
    fun _ => nofun
  have accessModes := keepsSpec.find?_eq_of_some "accessModes" (by decide) rfl
    fun _ => nofun
  have truthy := textual.isTruthy_name named
  have original := parts_of_manifestMembers textual.isRenderable truthy
  let parts : Parts := { volume.parts with
    metadata, spec, source, capacity, secret, annotations := Mapping.ofMembers annotations }
  have regrows : Regrows volume parts :=
    ⟨keepsMetadata, keepsSpec, keepsSource, keepsCapacity, keepsSecret, rfl, rfl⟩
  refine ⟨parts, ?_, regrows, annotates_of_enlarges textual rfl enlargesAnnotations
    keepsAnnotations⟩
  exact {
    metadata := membersOf_member isMetadata
    named := by rw [regrows.name_eq textual]; exact truthy
    spec := membersOf_member isSpec
    source := by rw [Json.member, isSource]; rfl
    capacity := membersOf_member isCapacity
    monitors := by rw [member_congr monitors]; exact original.monitors
    secret := membersOf_member isSecret
    annotations := by rw [Json.member, isAnnotations]; exact Mapping.ofJson_object annotations
    accessModes := by rw [member_congr accessModes]; exact original.accessModes }

/-- What an enlarged manifest publishes is what the manifest that it comes from publishes,
with more annotations. -/
theorem ofManifest_of_enlarges (textual : volume.IsTextual) (named : volume.name ≠ .text [])
    {members : List (Text × Json)}
    (enlarges : Enlarges .manifest volume.manifest (.object members)) :
    ∃ annotations, ofManifest volume.manifestMembers = .ok volume.reread
      ∧ ofManifest members = .ok { volume.reread with annotations }
      ∧ volume.Annotates annotations := by
  rcases exists_parts_of_enlarges textual named enlarges with ⟨parts, has, regrows, annotates⟩
  have truthy := textual.isTruthy_name named
  have read := ofManifest_manifestMembers textual.isRenderable truthy
  have same : volume.parts.volume = volume.reread := Except.ok.inj
    ((ofManifest_of_parts (parts_of_manifestMembers textual.isRenderable truthy)).symm.trans read)
  refine ⟨parts.annotations, read, ?_, annotates⟩
  rw [ofManifest_of_parts has, regrows.volume_eq textual, same]

end Volume

end ShareProvisioner
