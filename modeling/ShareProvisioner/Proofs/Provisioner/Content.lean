import ShareProvisioner.Proofs.Lifecycle.Reversal

/-!
# What a returned volume says

A volume puts together what four sources say: the claim, the parameters that it leads to, the
record that the agent prints, and the names that the provisioner takes for the attempt.  Each
field has one source, and the stamp of ownership none but the provisioner itself.
-/

namespace ShareProvisioner

namespace Agent

/-! ## Records -/

/-- Whether a text is the longest end of a path that begins with a slash. -/
structure IsAbsoluteEnd (path absolute : Text) : Prop where
  isSuffix : absolute <:+ path
  begins : absolute.head? = some '/'
  longest : ∀ other : Text, other <:+ path → other.head? = some '/' → other <:+ absolute

theorem isAbsoluteEnd_cons_slash_iff {rest absolute : Text} :
    IsAbsoluteEnd (.char '/' :: rest) absolute ↔ .char '/' :: rest = absolute := by
  constructor
  · rintro ⟨isSuffix, -, longest⟩
    have whole := longest _ List.suffix_rfl rfl
    exact whole.eq_of_length (Nat.le_antisymm whole.length_le isSuffix.length_le)
  · rintro rfl
    exact ⟨List.suffix_rfl, rfl, fun other isSuffix _ => isSuffix⟩

theorem isAbsoluteEnd_cons_other_iff {first : CodePoint} {rest absolute : Text}
    (other : first ≠ .char '/') :
    IsAbsoluteEnd (first :: rest) absolute ↔ IsAbsoluteEnd rest absolute := by
  have inRest {part : Text} (isSuffix : part <:+ first :: rest)
      (begins : part.head? = some (.char '/')) : part <:+ rest := by
    rcases List.suffix_cons_iff.mp isSuffix with rfl | inRest
    · exact absurd (Option.some.inj begins) other
    · exact inRest
  constructor
  · rintro ⟨isSuffix, begins, longest⟩
    exact ⟨inRest isSuffix begins, begins, fun part isPart =>
      longest part (isPart.trans (List.suffix_cons first rest))⟩
  · rintro ⟨isSuffix, begins, longest⟩
    exact ⟨isSuffix.trans (List.suffix_cons first rest), begins, fun part isPart partBegins =>
      longest part (inRest isPart partBegins) partBegins⟩

theorem dropWhile_eq_iff {path absolute : Text} :
    path.dropWhile (· ≠ .char '/') = absolute ∧ absolute ≠ [] ↔ IsAbsoluteEnd path absolute := by
  induction path with
  | nil =>
      constructor
      · rintro ⟨rfl, nonempty⟩
        exact absurd rfl nonempty
      · rintro ⟨isSuffix, begins, -⟩
        cases List.suffix_nil.mp isSuffix
        cases begins
  | cons first rest induction =>
      by_cases slash : first = .char '/'
      · subst slash
        rw [List.dropWhile_cons_of_neg (by simp), isAbsoluteEnd_cons_slash_iff]
        exact ⟨And.left, fun whole => ⟨whole, whole ▸ List.cons_ne_nil _ _⟩⟩
      · rw [List.dropWhile_cons_of_pos (by simpa using slash), induction,
          isAbsoluteEnd_cons_other_iff slash]

theorem exportPath_eq_ok_iff {path absolute : Text} :
    exportPath path = .ok absolute ↔ IsAbsoluteEnd path absolute := by
  rw [← dropWhile_eq_iff, exportPath]
  cases path.dropWhile (· ≠ .char '/') with
  | nil =>
      constructor
      · intro located
        cases located
      · rintro ⟨rfl, nonempty⟩
        exact absurd rfl nonempty
  | cons first rest =>
      rw [Except.ok.injEq]
      exact ⟨fun same => ⟨same, same ▸ List.cons_ne_nil _ _⟩, And.left⟩

/-- Whether a run succeeds and prints an object. -/
def Outcome.Prints (outcome : Outcome) (members : List (Text × Json)) : Prop :=
  ∃ standardOutput standardError, outcome = .exited 0 standardOutput standardError
    ∧ Json.read (outputText standardOutput) = .ok (.object members)

theorem Outcome.Reports.prints {outcome : Outcome} {record : Record}
    (reports : outcome.Reports record) :
    ∃ members, outcome.Prints members
      ∧ record.path = (Json.member members Failure.RecordField.path.name).display
      ∧ record.user = (Json.member members Failure.RecordField.user.name).display
      ∧ record.key = (Json.member members Failure.RecordField.auth.name).display := by
  rcases reports with ⟨standardOutput, standardError, exited, parsed⟩
  rcases Record.parse_eq_ok_iff.mp parsed with ⟨members, read, -, rfl⟩
  exact ⟨members, ⟨standardOutput, standardError, exited, read⟩, rfl, rfl, rfl⟩

end Agent

namespace Provisioner

/-! ## Volumes -/

/-- Whether a volume says what the claim, the parameters, the names taken and the record say. -/
structure Describes (provisioner : Provisioner) (claim : Claim) (resolved : List Text)
    (share user : Text) (members : List (Text × Json)) (volume : Volume) : Prop where
  name : volume.name = .text claim.volumeName
  capacity : volume.capacity = .text claim.capacity
  reclaimPolicy : volume.reclaimPolicy = .text claim.reclaimPolicy
  storageClass : volume.storageClass = (claim.storageClass.map Json.text).getD .null
  secretNamespace : volume.secretNamespace = .text claim.namespaceName
  secretName : volume.secretName = .text ("ceph-" ++ user ++ "-secret")
  monitors : volume.monitors = resolved.map .text
  exportPath : ∃ absolute, volume.exportPath = .text absolute
    ∧ Agent.IsAbsoluteEnd (Json.member members "path").display absolute
  grantedUser : volume.grantedUser = .text (Json.member members "user").display
  annotations : volume.annotations
    = (.text AnnotationKey.identity.name, .text provisioner.identity)
      :: (.text AnnotationKey.share.name, .text share)
      :: (.text AnnotationKey.provisionedBy.name, .text provisioner.name)
      :: match claim.storageClass with
        | none | some [] => []
        | some className => [(.text AnnotationKey.storageClass.name, .text className)]
  stamped : volume.IsStamped provisioner.identity share
  verified : ∀ identity, Ownership.verify volume identity
    = if identity = provisioner.identity then .owned else .notMine

theorem verify_of_stamped {volume : Volume} {own share : Text}
    (stamped : volume.IsStamped own share) (identity : Text) :
    Ownership.verify volume identity = if identity = own then .owned else .notMine := by
  by_cases same : identity = own
  · rw [if_pos same, same]
    exact Ownership.verify_of_isStamped stamped
  · rw [if_neg same, Ownership.verify_eq_notMine_iff, stamped.identity]
    exact ⟨nofun, fun others => same (Json.text.inj others).symm⟩

section Attempts

variable {provisioner : Provisioner} {store : Store} {claim : Claim} {world : World}

theorem describes_volumeFor {monitors : List Text} {share user absolute : Text}
    {members : List (Text × Json)}
    (isEnd : Agent.IsAbsoluteEnd (Json.member members "path").display absolute) :
    Describes provisioner claim monitors share user members
      (provisioner.volumeFor claim monitors share (secretName user) absolute
        (Json.member members "user").display) where
  name := rfl
  capacity := rfl
  reclaimPolicy := rfl
  storageClass := rfl
  secretNamespace := rfl
  secretName := rfl
  monitors := rfl
  exportPath := ⟨absolute, rfl, isEnd⟩
  grantedUser := rfl
  annotations := provisioner.annotations_eq share claim.storageClass
  stamped := volumeFor_isStamped
  verified := verify_of_stamped volumeFor_isStamped

/-- The agent is told the monitors that the parameters name. -/
theorem Launches.monitors_mem {parameters : ClusterParameters} {connection : Connection}
    {invocation : Agent.Invocation}
    (launches : provisioner.Launches store claim world parameters connection invocation) :
    connection.monitors = parameters.monitors
      ∧ (Text.ofString "MONITORS", Text.join "," parameters.monitors) ∈ invocation.environment := by
  rcases Store.connect_eq_ok_iff.mp launches.connected with ⟨data, key, -, -, rfl⟩
  have environment := (Agent.invocation_eq_ok_iff.mp launches.invoked).2.1
  have member : (Text.ofString "MONITORS", Json.text (Text.join "," parameters.monitors))
      ∈ invocation.environmentValues := by
    rw [← environment]
    exact List.mem_cons_of_mem _ List.mem_cons_self
  rcases List.mem_map.mp member with ⟨⟨name, value⟩, isSetting, same⟩
  rw [Prod.mk.injEq, Json.text.injEq] at same
  rcases same with ⟨rfl, rfl⟩
  exact ⟨rfl, isSetting⟩

/-- An attempt that returns a volume has run the agent once, to create the names that it took,
and has read off what the agent printed. The volume says what the claim, the parameters, these
names and the printed object say; its stamp is the provisioner's, whatever they are. -/
theorem provision_describes {volume : Volume}
    (returned : (Action.runIn world (provisioner.provision store claim)).1 = .ok volume) :
    ∃ parameters invocation members key,
      claim.Admits parameters
        ∧ (Action.runIn world (provisioner.provision store claim)).2.calls
          = world.calls ++ [store.readingSecret parameters.secret, .agent invocation,
            store.creatingSecret (publishedSecret claim world) [(secretEntry, key)]]
        ∧ invocation.Creates world.nextShare world.nextUser
        ∧ (Text.ofString "MONITORS", Text.join "," parameters.monitors) ∈ invocation.environment
        ∧ world.nextOutcome.Prints members
        ∧ Utf8.encode (Json.member members "auth").display = .ok key
        ∧ provisioner.Describes claim parameters.monitors world.nextShare world.nextUser members
          volume := by
  have course := provisioner.provision_course store claim world
  rw [returned] at course
  generalize (Action.runIn world (provisioner.provision store claim)).2 = after at course ⊢
  cases course with
  | @published parameters connection invocation record exportPath key publishes written free =>
      rcases publishes.reports.prints with ⟨members, prints, isPath, isUser, isKey⟩
      rcases publishes.toLaunches.monitors_mem with ⟨sameMonitors, told⟩
      have located := Agent.exportPath_eq_ok_iff.mp publishes.located
      have encoded := publishes.encoded
      rw [isPath] at located
      rw [isKey] at encoded
      refine ⟨parameters, invocation, members, key, publishes.admits, ?_, publishes.creates, told,
        prints, encoded, ?_⟩
      · simp
      · rw [isUser, sameMonitors]
        exact describes_volumeFor located

end Attempts

theorem provision_describes_sample :
    (Action.runIn Run.sampleWorld
        (provision { identity := "one" } .memory Run.sampleClaim)).1 = .ok Run.sampleVolume
      ∧ ∃ parameters members, Run.sampleClaim.Admits parameters
        ∧ Run.sampleWorld.nextOutcome.Prints members
        ∧ Describes { identity := "one" } Run.sampleClaim parameters.monitors
          Run.sampleWorld.nextShare Run.sampleWorld.nextUser members Run.sampleVolume := by
  have returned : (Action.runIn Run.sampleWorld
      (provision { identity := "one" } .memory Run.sampleClaim)).1 = .ok Run.sampleVolume := by
    decide +kernel
  rcases provision_describes returned with
    ⟨parameters, invocation, members, key, admits, -, -, -, prints, -, describes⟩
  exact ⟨returned, parameters, members, admits, prints, describes⟩

end Provisioner

end ShareProvisioner
