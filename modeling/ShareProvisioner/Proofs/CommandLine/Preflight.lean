import ShareProvisioner.Proofs.Cluster.Malformed
import ShareProvisioner.Proofs.CommandLine.Bundle
import ShareProvisioner.Proofs.CommandLine.Report
import ShareProvisioner.Proofs.Json.Lines
import ShareProvisioner.Proofs.Provisioner.Scalar
import ShareProvisioner.Proofs.Text.Decoding

/-!
# Validating a storage class beforehand

The file of a storage class and the answer of a server that holds the same document give the same
parameters.  So what `validate` says about the file is what deleting a volume of the class makes of
its parameters.
-/

namespace ShareProvisioner

namespace Json

/-- The members that are written in an object are values with white space around them. -/
theorem Writes.exists_element {members : List (Text × Json)} {written : Text}
    (writes : Writes (.members members) written) :
    ∀ member ∈ members, ∃ part, Writes (.element member.2) part := by
  generalize isMembers : Phrase.members members = phrase at writes
  induction writes generalizing members with
  | firstMember writesName writesValue _ =>
      cases isMembers
      exact List.forall_mem_singleton.mpr ⟨_, writesValue⟩
  | nextMember writesOthers writesName writesValue induction _ =>
      cases isMembers
      exact List.forall_mem_append.mpr
        ⟨induction rfl, List.forall_mem_singleton.mpr ⟨_, writesValue⟩⟩
  | _ => cases isMembers

/-- An object that is a member of a document has no name twice. -/
theorem nodup_of_member {document : Text} {members inner : List (Text × Json)} {name : Text}
    (isRead : read document = .ok (.object members))
    (isMember : member members name = .object inner) : (inner.map Prod.fst).Nodup := by
  have isFound : Entries.find? members name = some (.object inner) := by
    unfold member at isMember
    cases found : Entries.find? members name with
    | none =>
        rw [found] at isMember
        cases isMember
    | some value =>
        rw [found] at isMember
        exact congrArg some isMember
  obtain ⟨listed, ⟨_, _, _, _, writesObject, _, _⟩, rfl⟩ := read_eq_object_iff.mp isRead
  obtain ⟨before, after, split, _⟩ := Entries.find?_ofList_eq_some_iff.mp isFound
  have isListed : (name, object inner) ∈ listed := by simp [split]
  cases writesObject with
  | emptyObject _ => cases isListed
  | someObject writesMembers =>
      obtain ⟨part, writesElement⟩ := writesMembers.exists_element _ isListed
      cases writesElement with | element _ writesValue _
      cases writesValue with
      | scalar writesScalar => exact absurd writesScalar not_writesScalar_object
      | object _ => exact Entries.nodup_keys_ofList _

def textMembers (given : List (Text × Text)) : List (Text × Json) :=
  given.map fun (name, value) => (name, text value)

end Json

/-- Whether octets are the document of a storage class with the given parameters, in their
order. -/
inductive HoldsClass (octets : Octets) (given : List (Text × Text)) : Prop
  | intro {document : Text} {members : List (Text × Json)}
      (decoded : Utf8.decode octets = .ok document)
      (isObject : Json.read document = .ok (.object members))
      (kind : Json.member members "kind" = .text "StorageClass")
      (metadata : (Json.member members "metadata").IsObjectLike)
      (parameters : (Json.member members "parameters").orElse (.object [])
        = .object (Json.textMembers given))

namespace HoldsClass

variable {octets : Octets} {given : List (Text × Text)}

theorem distinct (holds : HoldsClass octets given) : (given.map Prod.fst).Nodup := by
  obtain @⟨document, members, _, isObject, _, _, parameters⟩ := holds
  have names : (Json.textMembers given).map Prod.fst = given.map Prod.fst := by
    simp [Json.textMembers]
  rw [← names]
  cases truthy : (Json.member members "parameters").isTruthy with
  | false =>
      rw [Json.orElse_of_silent truthy] at parameters
      rw [← Json.object.inj parameters]
      exact List.nodup_nil
  | true =>
      rw [Json.orElse_of_isTruthy truthy] at parameters
      exact Json.nodup_of_member isObject parameters

/-- The file of a storage class gives its parameters. -/
theorem ofFile (holds : HoldsClass octets given) {files : Files} {path : Path}
    (isFile : files.read path.display = .ok octets) : Bundle.ofFile files path = .ok given := by
  have distinct := holds.distinct
  obtain @⟨document, members, decoded, isObject, kind, _, parameters⟩ := holds
  have text : Files.textOf octets = .ok document.normalizeLines := by
    rw [Files.textOf, decoded]
  have mapping : Bundle.mapping? (.object members) = some (Json.textMembers given) := by
    have isClass : Bundle.isStorageClass members = true := decide_eq_true kind
    rw [Bundle.mapping?, if_pos isClass, parameters]
  have ofDocument : Bundle.ofDocument path.display document.normalizeLines = .ok given := by
    unfold Bundle.ofDocument
    rw [Json.read_normalizeLines isObject]
    dsimp only
    rw [mapping]
    dsimp only
    -- Texts are displayed as they are.
    rw [Json.textMembers, List.map_map]
    exact congrArg Except.ok ((congrArg _ (List.map_id given)).trans
      (Entries.ofList_of_nodup distinct))
  exact Result.bind_eq_ok_iff.mpr
    ⟨octets, isFile, Result.bind_eq_ok_iff.mpr ⟨_, text, ofDocument⟩⟩

/-- The answer of a server that has the storage class gives its parameters. -/
theorem readClass (holds : HoldsClass octets given) {client : Cluster.Client} {world : World}
    (answered : world.nextResponse = .answered 200 octets) (name : Json) :
    ∃ found, (Action.runIn world (client.readClass name)).1 = .ok found
      ∧ found.parameters = Parameters.bundle given := by
  obtain @⟨document, members, decoded, isObject, _, metadata, parameters⟩ := holds
  have replaced : Utf8.decodeReplacing octets = document :=
    Utf8.decodeReplacingAfter_of_decodeFrom decoded
  have mapping : Mapping.ofJson (Json.member members "parameters")
      = .ok (Parameters.bundle given) := by
    have textual : Mapping.ofMembers (Json.textMembers given) = Parameters.bundle given := by
      simp [Mapping.ofMembers, Json.textMembers, Parameters.bundle]
    rw [← textual, ← Mapping.ofJson_object, ← parameters]
    cases truthy : (Json.member members "parameters").isTruthy with
    | false =>
        rw [Json.orElse_of_silent truthy]
        exact if_neg (Bool.eq_false_iff.mp truthy)
    | true => rw [Json.orElse_of_isTruthy truthy]
  rw [Cluster.Client.runIn_readClass_of_object answered (by decide) (replaced ▸ isObject),
    Cluster.Client.storageClass_eq, Volume.membersOf_eq_ok_iff.mpr ⟨metadata, rfl⟩, mapping]
  exact ⟨_, rfl, rfl⟩

section Delete

variable {client : Cluster.Client} {world : World} {provisioner : Provisioner} {volume : Volume}
  {parameters : ClusterParameters}

/-- What a provisioner finds are the parameters that the class stands for. -/
theorem finds_iff (holds : HoldsClass octets given)
    (answered : world.nextResponse = .answered 200 octets)
    (seeks : Provisioner.Seeks provisioner volume) :
    Provisioner.Finds provisioner (.cluster client) volume world parameters
      ↔ Parameters.resolve (Parameters.bundle given) = .ok parameters := by
  obtain ⟨storageClass, read, same⟩ := holds.readClass answered volume.className
  constructor
  · intro finds
    obtain ⟨otherClass, otherRead, resolved⟩ := finds.found
    cases read.symm.trans otherRead
    rwa [same] at resolved
  · intro resolved
    exact ⟨seeks, storageClass, read, by rwa [same]⟩

theorem delete_of_refused (holds : HoldsClass octets given)
    (answered : world.nextResponse = .answered 200 octets)
    (seeks : Provisioner.Seeks provisioner volume) {failure : Failure}
    (refused : Parameters.resolve (Parameters.bundle given) = .error failure) :
    (Action.runIn world (provisioner.delete (.cluster client) volume)).1 = .error failure := by
  obtain ⟨storageClass, read, same⟩ := holds.readClass answered volume.className
  have course := Provisioner.delete_course provisioner (.cluster client) volume world
  exact course.of_refused seeks read (same ▸ refused)

end Delete

end HoldsClass

namespace CommandLine

namespace Report

/-- What is printed about parameters that are accepted. -/
def accepting (parameters : ClusterParameters) : Report where
  status := 0
  output := (describe parameters).flatMap fun line => line.withoutStyles ++ "\n"

/-- What is printed about parameters that are refused. -/
def refusing (cause : Failure.Cause) : Report where
  status := 1
  errors := "Invalid parameters: " ++ cause.message ++ "\n"

end Report

section Validate

variable {given : List (Text × Text)} {files : Files} {file : Text}

theorem isScalar_describe (scalar : ∀ entry ∈ given, entry.2.isScalar = true) :
    ∀ line ∈ describe (Parameters.resolution given), line.isScalar = true := by
  have value (key : Text) := Parameters.isScalar_valueAt scalar key
  have valueOr (key : Text) (default : String) :
      (Parameters.valueOr given key default).isScalar = true := by
    unfold Parameters.valueOr
    split
    · exact Text.isScalar_ofString default
    · exact value key
  have monitors : (Text.join "," (Parameters.resolution given).monitors).isScalar = true := by
    apply Text.isScalar_join (Text.isScalar_ofString _)
    rw [Parameters.resolution, ← Parameters.monitors_eq]
    exact Parameters.monitors_isScalar (value "monitors")
  simp only [describe, showSecret, List.forall_mem_cons, Text.isScalar_append,
    Text.isScalar_ofString, Bool.true_and, Bool.and_true, Bool.and_eq_true, monitors]
  exact ⟨valueOr "cluster" "ceph", valueOr "adminId" "admin", trivial,
    ⟨valueOr "adminSecretNamespace" "default", value "adminSecretName"⟩, List.forall_mem_nil _⟩

theorem resolve_of_load
    (loaded : Bundle.load files [] (some (Path.ofText file)) = .ok given)
    (distinct : (given.map Prod.fst).Nodup) :
    resolve files { file := some file } = Parameters.resolve (Parameters.bundle given) := by
  rw [← Mapping.ofTexts_of_distinct distinct]
  unfold resolve
  dsimp only [Option.map_some]
  rw [loaded]

theorem validate_of_accepted
    (resolved : resolve files { file := some file } = .ok (Parameters.resolution given))
    (scalar : ∀ entry ∈ given, entry.2.isScalar = true) :
    validate files { file := some file } = .accepting (Parameters.resolution given) := by
  unfold validate
  rw [resolved]
  exact Report.ofLines_of_isScalar (isScalar_describe scalar)

theorem validate_of_refused {cause : Failure.Cause}
    (refused : resolve files { file := some file } = .error (.declared cause))
    (refusal : Parameters.IsRefusal cause) :
    validate files { file := some file } = .refusing cause := by
  have visible : Text.IsVisible ("Invalid parameters: " ++ cause.message) :=
    Text.IsVisible.append (by decide) refusal.isVisible
  unfold validate
  rw [refused]
  dsimp only
  rw [if_pos refusal.isAboutRequest]
  exact Report.complaint_of_isVisible visible

theorem run_validate {surroundings : Surroundings} (takes : Files.checkName file = .ok ())
    (world : World) : (run surroundings world ["parameters", "validate", "--file", file]).1
      = validate surroundings.files { file := some file } := by
  unfold run
  rw [read_validate]
  dsimp only [Option.getD_some]
  rw [takes]
  rfl

end Validate

/-- The file of a storage class gives just the parameters that a server gives that answers with
the same document.  To validate the file beforehand succeeds exactly if a provisioner that seeks
the share of a volume of this class finds the cluster, and shows what it finds; otherwise the same
failure is shown as the attempt to delete the volume ends in. -/
theorem preflight_predicts_delete {surroundings : Surroundings} {file : Text} {octets : Octets}
    {given : List (Text × Text)} (takes : Files.checkName file = .ok ())
    (isFile : surroundings.files.read (Path.ofText file).display = .ok octets)
    (holds : HoldsClass octets given) (client : Cluster.Client) {world : World}
    (answered : world.nextResponse = .answered 200 octets) {provisioner : Provisioner}
    {volume : Volume} (seeks : Provisioner.Seeks provisioner volume) (other : World) :
    let report := (run surroundings other ["parameters", "validate", "--file", file]).1
    let Finds := Provisioner.Finds provisioner (.cluster client) volume world
    let isScalar := ∀ entry ∈ given, entry.2.isScalar = true
    Bundle.load surroundings.files [] (some (Path.ofText file)) = .ok given
      ∧ (∀ name, ∃ found, (Action.runIn world (client.readClass name)).1 = .ok found
        ∧ found.parameters = Parameters.bundle given)
      ∧ (isScalar → (report.status = 0 ↔ ∃ parameters, Finds parameters))
      ∧ (∀ parameters, Finds parameters → isScalar → report = .accepting parameters)
      ∧ ((¬∃ parameters, Finds parameters) → ∃ cause,
        (Action.runIn world (provisioner.delete (.cluster client) volume)).1
            = .error (.declared cause)
          ∧ report = .refusing cause) := by
  intro report Finds isScalar
  have loaded : Bundle.load surroundings.files [] (some (Path.ofText file)) = .ok given :=
    Result.bind_eq_ok_iff.mpr ⟨given, holds.ofFile isFile, rfl⟩
  have isReport : report = validate surroundings.files { file := some file } :=
    run_validate takes other
  have resolved := resolve_of_load loaded holds.distinct
  have finds (parameters : ClusterParameters) : Finds parameters
      ↔ Parameters.resolve (Parameters.bundle given) = .ok parameters :=
    holds.finds_iff answered seeks
  refine ⟨loaded, holds.readClass answered, ?_⟩
  simp only [finds, isReport]
  cases Parameters.isDocumented_or_refuses given with
  | inl documented =>
      have accepted := Parameters.resolve_of_isDocumented documented
      have reported := validate_of_accepted (resolved.trans accepted)
      refine ⟨?_, ?_, ?_⟩
      · intro scalar
        rw [reported scalar]
        exact iff_of_true rfl ⟨_, accepted⟩
      · intro parameters isAccepted scalar
        cases accepted.symm.trans isAccepted
        exact reported scalar
      · intro unaccepted
        exact absurd ⟨_, accepted⟩ unaccepted
  | inr refused =>
      obtain ⟨cause, refuses⟩ := refused
      have refused := Parameters.resolve_of_refuses refuses
      have reported := validate_of_refused (resolved.trans refused)
        (Parameters.isRefusal_of_resolve refused)
      have unaccepted : ¬∃ parameters,
          Parameters.resolve (Parameters.bundle given) = .ok parameters := by
        intro accepted
        obtain ⟨parameters, accepted⟩ := accepted
        exact nomatch refused.symm.trans accepted
      refine ⟨?_, ?_, ?_⟩
      · intro _
        rw [reported]
        exact iff_of_false nofun unaccepted
      · intro parameters accepted _
        exact absurd ⟨parameters, accepted⟩ unaccepted
      · intro _
        exact ⟨cause, holds.delete_of_refused answered seeks refused, reported⟩

/-- A class with line ends of all kinds in its document and a parameter that is written twice. -/
theorem preflight_predicts_delete_sample :
    let document := "\x7b\r\n\"kind\":\"StorageClass\",\r\"parameters\":\x7b\"monitors\":\"m1\",\n"
      ++ "\"adminSecretName\":\"s\",\"monitors\":\"m2\"\x7d\x7d"
    let octets := Utf8.ofString document
    let surroundings : Surroundings := { files := { contents := [(["class.json"], octets)] } }
    let world : World := { responses := [.answered 200 octets] }
    let client : Cluster.Client := { baseUrl := "https://api" }
    let provisioner : Provisioner := { identity := "one" }
    let volume := provisioner.volumeFor
      { volumeName := "pv", namespaceName := "team", capacity := "1Gi"
        storageClass := some "fast" }
      ["m1"] "share" "secret" "/path" "user"
    let parameters : ClusterParameters := {
      cluster := .text "ceph"
      adminId := .text "admin"
      monitors := ["m2"]
      secret := ⟨.text "default", .text "s"⟩ }
    Provisioner.Finds provisioner (.cluster client) volume world parameters
      ∧ (run surroundings {} ["parameters", "validate", "--file", "class.json"]).1
        = {
          status := 0
          output := "cluster: ceph\nadminId: admin\nmonitors: m2\nadminSecret: default/s\n" } := by
  intro document octets surroundings world client provisioner volume parameters
  let given : List (Text × Text) := [("monitors", "m2"), ("adminSecretName", "s")]
  have isFile : surroundings.files.read (Path.ofText (Text.ofString "class.json")).display
      = .ok octets := by
    decide +kernel
  have decoded : Utf8.decode octets = .ok document := by decide +kernel
  have isObject : Json.read document = .ok (.object [("kind", .text "StorageClass"),
      ("parameters", .object (Json.textMembers given))]) := by
    decide +kernel
  have holds : HoldsClass octets given :=
    .intro decoded isObject (by decide) (.silent (by decide)) (by decide)
  have seeks : Provisioner.Seeks provisioner volume := ⟨by decide, rfl, rfl⟩
  have answered : world.nextResponse = .answered 200 octets := rfl
  obtain ⟨_, reads, _, predicts, _⟩ :=
    preflight_predicts_delete rfl isFile holds client answered seeks {}
  obtain ⟨found, isFound, same⟩ := reads volume.className
  have finds : Provisioner.Finds provisioner (.cluster client) volume world parameters :=
    ⟨seeks, found, isFound, by rw [same]; decide +kernel⟩
  refine ⟨finds, (predicts parameters finds (by decide)).trans ?_⟩
  decide +kernel

/-- A style in the name of a cluster is not shown, and a lone surrogate keeps an accepted class
from being shown at all. -/
theorem styled_cluster_shown_plain :
    let octets (cluster : String) := Utf8.ofString
      ("\x7b\"kind\":\"StorageClass\",\"parameters\":\x7b\"cluster\":\"" ++ cluster
        ++ "\",\"monitors\":\"m\",\"adminSecretName\":\"s\"\x7d\x7d")
    let client : Cluster.Client := { baseUrl := "https://api" }
    let resolved (cluster : String) :=
      let world : World := { responses := [.answered 200 (octets cluster)] }
      (Action.runIn world (client.readClass (.text "fast"))).1.bind fun found =>
        Parameters.resolve found.parameters
    let report (cluster : String) :=
      let files : Files := { contents := [(["class.json"], octets cluster)] }
      (run { files } {} ["parameters", "validate", "--file", "class.json"]).1
    resolved "a\\u001b[31mb" = .ok {
        cluster := .text "a\x1b[31mb"
        adminId := .text "admin"
        monitors := ["m"]
        secret := ⟨.text "default", .text "s"⟩ }
      ∧ report "a\\u001b[31mb" = {
        status := 0
        output := "cluster: ab\nadminId: admin\nmonitors: m\nadminSecret: default/s\n" }
      ∧ (resolved "\\ud800").toBool = true
      ∧ (report "\\ud800").status = 1 := by
  decide +kernel

end CommandLine

end ShareProvisioner
