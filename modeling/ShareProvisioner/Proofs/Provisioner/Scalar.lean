import ShareProvisioner.Proofs.Failure.Message
import ShareProvisioner.Proofs.Parameters
import ShareProvisioner.Proofs.Provisioner.Delete
import ShareProvisioner.Proofs.Provisioner.Provision
import ShareProvisioner.Proofs.Provisioner.Published

/-!
# Attempts without lone surrogates

Where neither what is asked for, nor what memory keeps of classes, nor what the agent
reports holds a lone surrogate, none gets into a volume or into a message.  The key that
the agent reports and whatever else it prints do not matter for this.
-/

namespace ShareProvisioner

structure Claim.IsScalar (claim : Claim) : Prop where
  volumeName : claim.volumeName.isScalar = true
  namespaceName : claim.namespaceName.isScalar = true
  capacity : claim.capacity.isScalar = true
  reclaimPolicy : claim.reclaimPolicy.isScalar = true
  parameters : ∀ entry ∈ claim.parameters, entry.2.isScalar = true
  storageClass : ∀ className, claim.storageClass = some className → className.isScalar = true

structure Provisioner.IsScalar (provisioner : Provisioner) : Prop where
  identity : provisioner.identity.isScalar = true
  name : provisioner.name.isScalar = true
  agentPath : provisioner.agentPath.isScalar = true

/-- Whether a volume can be asked about and shown without any lone surrogate. -/
structure Volume.IsScalar (volume : Volume) : Prop where
  name : volume.name.isScalar = true
  storageClass : volume.storageClass.isScalar = true
  annotations : volume.annotations.HasScalarValues

namespace Volume.IsScalar

variable {volume : Volume}

theorem annotationAt (scalar : volume.IsScalar) (key : AnnotationKey) :
    (volume.annotationAt key).isScalar = true := by
  unfold Volume.annotationAt
  cases found : volume.annotations.find? (.text key.name) with
  | none => rfl
  | some value =>
      rcases Entries.mem_of_find? found with ⟨present, _, member⟩
      exact scalar.annotations value (List.mem_map_of_mem member)

theorem className (scalar : volume.IsScalar) : volume.className.isScalar = true :=
  Json.isScalar_orElse (scalar.annotationAt .storageClass) scalar.storageClass

end Volume.IsScalar

structure Agent.Outcome.IsScalar (outcome : Agent.Outcome) : Prop where
  reason : ∀ code reason, outcome = .notStarted code reason → reason.isScalar = true
  record : ∀ record, outcome.Reports record →
    record.path.isScalar = true ∧ record.user.isScalar = true

structure World.IsScalar (world : World) : Prop where
  classes : ∀ entry ∈ world.memory.classes, entry.2.HasScalarValues
  runs : ∀ outcome ∈ world.runs, outcome.IsScalar

/-! ## Parameters -/

structure ClusterParameters.IsScalar (parameters : ClusterParameters) : Prop where
  monitors : ∀ monitor ∈ parameters.monitors, monitor.isScalar = true
  namespaceName : parameters.secret.namespaceName.isScalar = true
  name : parameters.secret.name.isScalar = true

namespace Parameters

theorem monitors_isScalar {value : Text} (scalar : value.isScalar = true) :
    ∀ monitor ∈ monitors value, monitor.isScalar = true := by
  intro monitor member
  unfold monitors at member
  rcases List.mem_map.mp (List.mem_filter.mp member).1 with ⟨piece, isPiece, rfl⟩
  exact Text.isScalar_of_subset scalar
    (List.Subset.trans (Text.strip_subset piece) (Text.subset_of_mem_pieces _ isPiece))

theorem resolve_isScalar {parameters : Mapping} {result : ClusterParameters}
    (scalar : parameters.HasScalarValues) (resolves : resolve parameters = .ok result) :
    result.IsScalar := by
  rcases resolve_eq_ok_iff.mp resolves with ⟨given, found, normalized, _, listed, _, rfl⟩
  have values (name : Text) : (valueOf given name).isScalar = true := by
    unfold valueOf
    cases isGiven : given.find? name with
    | none => rfl
    | some value =>
        rcases (find?_normalize normalized name value).mp isGiven with nothing | ⟨key, member, _⟩
        · cases nothing
        · exact scalar value (List.mem_map_of_mem member)
  refine ⟨?_, Json.isScalar_orElse (values _) (Text.isScalar_ofString _), values _⟩
  have monitorsScalar := values "monitors"
  cases isText : valueOf given "monitors" with
  | text value =>
      rw [isText] at listed monitorsScalar
      cases listed
      exact monitors_isScalar monitorsScalar
  | _ =>
      rw [isText] at listed
      cases listed

theorem IsRefusal.isScalar {cause : Failure.Cause} (refusal : IsRefusal cause) :
    cause.IsScalar := by
  cases refusal with
  | unknown option | duplicate option =>
      -- The option is shown in quotes only.
      intro name argument isShown
      simp [Failure.Cause.kind, Failure.Kind.template, Template.Part.shown,
        Template.Part.quoted] at isShown
  | missing required =>
      rcases List.mem_map.mp required with ⟨word, _, rfl⟩
      exact .of_arguments (by simp [Failure.Cause.arguments])

end Parameters

theorem Claim.IsScalar.hasScalarValues {claim : Claim} (scalar : claim.IsScalar) :
    (Mapping.ofTexts claim.parameters).HasScalarValues := by
  have written (pairs : List (Text × Text)) (pairsScalar : ∀ pair ∈ pairs, pair.2.isScalar = true)
      (mapping : Mapping) (mappingScalar : mapping.HasScalarValues) :
      Mapping.HasScalarValues (Entries.insertAll mapping
        (pairs.map fun pair => (Key.text pair.1, Json.text pair.2))) := by
    unfold Entries.insertAll
    induction pairs generalizing mapping with
    | nil => exact mappingScalar
    | cons pair pairs induction =>
        refine induction (fun other member => pairsScalar other (List.mem_cons_of_mem _ member))
          _ ?_
        exact mappingScalar.insert _ (pairsScalar pair (by simp))
  exact written claim.parameters scalar.parameters [] (by simp [Mapping.HasScalarValues])

/-! ## Asking the outside -/

section Outside

variable {world : World} {parameters : ClusterParameters}

theorem World.IsScalar.nextOutcome (scalar : world.IsScalar) : world.nextOutcome.IsScalar := by
  unfold World.nextOutcome
  cases runs : world.runs with
  | nil =>
      refine ⟨?_, ?_⟩
      · rintro code reason ⟨rfl⟩
        exact Text.isScalar_ofString _
      · rintro record ⟨standardOutput, standardError, started, _⟩
        cases started
  | cons outcome rest => exact scalar.runs outcome (by simp [runs])

theorem World.IsScalar.launched (scalar : world.IsScalar) (invocation : Agent.Invocation) :
    (world.launched invocation).IsScalar where
  classes := scalar.classes
  runs outcome member := scalar.runs outcome (List.mem_of_mem_tail member)

theorem World.IsScalar.of_same {other : World} (scalar : world.IsScalar)
    (classes : other.memory.classes = world.memory.classes) (runs : other.runs = world.runs) :
    other.IsScalar where
  classes := classes ▸ scalar.classes
  runs := runs ▸ scalar.runs

theorem World.IsScalar.readClass (scalar : world.IsScalar) {name : Json}
    {storageClass : StorageClass}
    (read : (Action.runIn world (Store.memory.readClass name)).1 = .ok storageClass) :
    storageClass.parameters.HasScalarValues := by
  rcases Memory.found_of_readClass read with ⟨className, _, found⟩
  rcases Entries.mem_of_find? found with ⟨present, _, member⟩
  exact scalar.classes _ member

theorem Store.refusal_of_connect_isScalar {cause : Failure.Cause}
    (scalar : parameters.IsScalar)
    (refused : (Action.runIn world (Store.memory.connect parameters)).1
      = .error (.declared cause)) : cause.IsScalar := by
  have causes := Store.refusal_of_connect refused
  simp only [List.mem_cons, List.not_mem_nil, or_false] at causes
  rcases causes with rfl | rfl | rfl <;>
    exact .of_arguments (by simp [Failure.Cause.arguments, scalar.namespaceName, scalar.name])

theorem Agent.Outcome.IsScalar.refusal {outcome : Agent.Outcome} (scalar : outcome.IsScalar)
    {path share : Text} {mode : Agent.Mode} {cause : Failure.Cause}
    (pathScalar : path.isScalar = true) (shareScalar : share.isScalar = true)
    (failed : outcome.output path mode share = .error cause) : cause.IsScalar := by
  have details (problem : Failure.AgentProblem) (output : Text)
      (shown : problem.details.isScalar = true) :
      (Failure.Cause.agentFailed problem output).IsScalar :=
    .of_arguments (by simp [Failure.Cause.arguments, shown])
  cases outcome with
  | notStarted code reason =>
      cases failed
      have reasonScalar := scalar.reason code reason rfl
      exact details _ _ (by simp [Failure.AgentProblem.details, pathScalar, reasonScalar])
  | exited status standardOutput standardError =>
      have modeScalar : mode.name.isScalar = true := by
        cases mode <;> exact Text.isScalar_ofString _
      unfold Agent.Outcome.output at failed
      dsimp only at failed
      split at failed
      · cases failed
      · cases failed
        exact details _ _ (by simp [Failure.AgentProblem.details, modeScalar, shareScalar])

end Outside

namespace Provisioner

variable {provisioner : Provisioner} {world after : World}

/-! ## Satisfying a claim -/

section Provision

variable {claim : Claim} {parameters : ClusterParameters} {connection : Connection}
  {invocation : Agent.Invocation}

theorem isScalar_nextShare (world : World) : world.nextShare.isScalar = true := by
  simp [World.nextShare, shareName, Action.identifierText]

theorem isScalar_publishedName (world : World) : (secretName world.nextUser).isScalar = true := by
  simp [World.nextUser, secretName, userName, Action.identifierText]

/-- The volumes for a claim whose own texts hold no lone surrogate. -/
inductive Issues (provisioner : Provisioner) (claim : Claim) : Volume → Prop
  | issues {monitors : List Text} {share secret exportPath user : Text}
      (monitorsScalar : ∀ monitor ∈ monitors, monitor.isScalar = true)
      (shareScalar : share.isScalar = true) (secretScalar : secret.isScalar = true)
      (pathScalar : exportPath.isScalar = true) (userScalar : user.isScalar = true) :
      Issues provisioner claim (provisioner.volumeFor claim monitors share secret exportPath user)

theorem Publishes.issues {record : Agent.Record} {exportPath : Text} {key : Octets}
    (publishes : Publishes provisioner .memory claim world parameters connection invocation record
      exportPath key)
    (claimScalar : claim.IsScalar) (scalar : world.IsScalar) :
    provisioner.Issues claim (provisioner.volumeFor claim connection.monitors world.nextShare
      (secretName world.nextUser) exportPath record.user) := by
  rcases Store.connect_eq_ok_iff.mp publishes.connected with ⟨_, adminKey, _, _, rfl⟩
  have parametersScalar :=
    Parameters.resolve_isScalar claimScalar.hasScalarValues publishes.admits.resolved
  have reported := scalar.nextOutcome.record record publishes.reports
  exact .issues parametersScalar.monitors (isScalar_nextShare world)
    (isScalar_publishedName world)
    (Text.isScalar_of_subset reported.1 (Agent.exportPath_subset publishes.located)) reported.2

theorem ProvisionCourse.issues {volume : Volume}
    (course : ProvisionCourse provisioner .memory claim world (.ok volume) after)
    (claimScalar : claim.IsScalar) (scalar : world.IsScalar) : provisioner.Issues claim volume := by
  cases course with
  | published publishes written free => exact publishes.issues claimScalar scalar

theorem ProvisionCourse.isScalar_refusal {cause : Failure.Cause}
    (course : ProvisionCourse provisioner .memory claim world (.error (.declared cause)) after)
    (provisionerScalar : provisioner.IsScalar) (claimScalar : claim.IsScalar)
    (scalar : world.IsScalar) : cause.IsScalar := by
  cases course with
  | selectorGiven given => exact .of_arguments (by simp [Failure.Cause.arguments])
  | parametersRefused unselective refused =>
      exact (Parameters.isRefusal_of_resolve refused).isScalar
  | unconnected admits refused =>
      exact Store.refusal_of_connect_isScalar
        (Parameters.resolve_isScalar claimScalar.hasScalarValues admits.resolved) refused
  | agentFailed launches failed =>
      exact scalar.nextOutcome.refusal provisionerScalar.agentPath (isScalar_nextShare world) failed
  | recordRefused launches printed refused =>
      rcases Agent.Record.refusal_of_parse refused with ⟨problem, rfl⟩
      exact Failure.Cause.isScalar_badRecord _ _
  | pathRefused launches reports refused =>
      cases Agent.refusal_of_exportPath refused
      exact Failure.Cause.isScalar_badRecord _ _
  | unpublished publishes refused =>
      rw [publishedSecret, Store.runIn_createSecret_memory] at refused
      split at refused
      · cases refused
        exact .of_arguments (by
          simp [Failure.Cause.arguments, claimScalar.namespaceName, isScalar_publishedName])
      · cases refused

theorem ProvisionCourse.isScalar_after {result : Except Failure Volume}
    (course : ProvisionCourse provisioner .memory claim world result after)
    (scalar : world.IsScalar) : after.IsScalar := by
  have created (secret : SecretReference) (invocation : Agent.Invocation) :
      (world.created .memory secret invocation).IsScalar := by
    have named : (world.connected .memory secret).named.IsScalar := scalar.of_same rfl rfl
    exact named.launched invocation
  cases course with
  | selectorGiven | parametersRefused => exact scalar
  | unconnected | unlaunched => exact scalar.of_same rfl rfl
  | agentFailed | recordRefused | pathRefused | keyUnencodable => exact created ..
  | @unpublished parameters _ invocation | @published parameters _ invocation =>
      exact (created parameters.secret invocation).of_same rfl rfl

end Provision

/-! ## Deleting a volume -/

section Delete

variable {volume : Volume}

theorem DeleteCourse.isScalar_refusal {cause : Failure.Cause}
    (course : DeleteCourse provisioner .memory volume world (.error (.declared cause)) after)
    (provisionerScalar : provisioner.IsScalar) (volumeScalar : volume.IsScalar)
    (scalar : world.IsScalar) : cause.IsScalar := by
  have resolvedScalar {storageClass : StorageClass} {parameters : ClusterParameters}
      (read : (Action.runIn world (Store.memory.readClass volume.className)).1 = .ok storageClass)
      (resolved : Parameters.resolve storageClass.parameters = .ok parameters) :
      parameters.IsScalar :=
    Parameters.resolve_isScalar (scalar.readClass read) resolved
  cases course with
  | unstamped verified =>
      have key (missing : AnnotationKey) : missing.name.isScalar = true := by
        cases missing <;> exact Text.isScalar_ofString _
      exact .of_arguments (by simp [Failure.Cause.arguments, volumeScalar.name, key])
  | userless owned userless => exact Failure.Cause.isScalar_badVolume volumeScalar.name _
  | classless owned user classless =>
      exact .of_arguments (by simp [Failure.Cause.arguments, volumeScalar.name])
  | classUnread seeks refused =>
      cases Memory.refusal_of_readClass refused
      exact .of_arguments (by simp [Failure.Cause.arguments, volumeScalar.className])
  | parametersRefused seeks read refused =>
      exact (Parameters.isRefusal_of_resolve refused).isScalar
  | unconnected finds refused =>
      rcases finds.found with ⟨storageClass, read, resolved⟩
      exact Store.refusal_of_connect_isScalar (resolvedScalar read resolved) refused
  | agentFailed destroys failed =>
      exact scalar.nextOutcome.refusal provisionerScalar.agentPath
        (Json.isScalar_display (volumeScalar.annotationAt .share)) failed

theorem DeleteCourse.isScalar_after {result : Except Failure Deletion}
    (course : DeleteCourse provisioner .memory volume world result after)
    (scalar : world.IsScalar) : after.IsScalar := by
  cases course with
  | unstamped | foreign | userless | classless => exact scalar
  | classUnread | parametersRefused | unconnected | unlaunched => exact scalar.of_same rfl rfl
  | @agentFailed parameters _ invocation | @deleted parameters _ invocation =>
      have connected : ((world.classRead .memory volume.className).connected .memory
          parameters.secret).IsScalar := scalar.of_same rfl rfl
      exact connected.launched invocation

end Delete

end Provisioner

/-! ## Manifests -/

namespace Volume

theorem isScalar_membersOf {value : Json} {members : List (Text × Json)}
    (scalar : value.isScalar = true) (read : membersOf value = .ok members) :
    (Json.object members).isScalar = true := by
  unfold membersOf at read
  split at read
  · split at read
    · cases read
      exact scalar
    · cases read
  · cases read
    rfl

theorem ofManifest_isScalar {members : List (Text × Json)} {volume : Volume}
    (scalar : (Json.object members).isScalar = true) (read : ofManifest members = .ok volume) :
    volume.IsScalar := by
  rcases exists_parts read with ⟨parts, has, rfl⟩
  have metadata := isScalar_membersOf (Json.isScalar_member scalar _) has.metadata
  have spec := isScalar_membersOf (Json.isScalar_member scalar _) has.spec
  exact ⟨Json.isScalar_member metadata _, Json.isScalar_member spec _,
    .of_ofJson (Json.isScalar_member metadata _) has.annotations⟩

theorem isScalar_of_refused {members : List (Text × Json)} {cause : Failure.Cause}
    (scalar : (Json.object members).isScalar = true)
    (refused : ofManifest members = .error (.declared cause)) : cause.IsScalar := by
  rcases refusal_of_ofManifest refused with rfl | ⟨metadata, read, rfl⟩
  · have unnamed : (Json.text "<unnamed>").isScalar = true := Text.isScalar_ofString _
    exact Failure.Cause.isScalar_badVolume unnamed _
  · have metadataScalar := isScalar_membersOf (Json.isScalar_member scalar _) read
    exact Failure.Cause.isScalar_badVolume (Json.isScalar_member metadataScalar _) _

end Volume

end ShareProvisioner
