import ShareProvisioner.Proofs.Service.Refinement

/-!
# Requests to delete what cannot be parsed

Such a request makes no call and leaves everything as it was.  How it is answered depends
on what is wrong with its manifest: the lack of a name or of a source is the caller's
mistake, whereas a part of another shape counts as an internal error, and the caller is
told to try again.
-/

namespace ShareProvisioner.Service

section Requests

variable {store : Store} {world : World} {body : Octets}
  {members manifest : List (Text × Json)}

theorem serve_of_unparsed (provisioner : Option Provisioner) {failure : Failure}
    (read : readBody body = .members members) (accepted : manifestOf members = .ok manifest)
    (unparsed : Volume.ofManifest manifest = .error failure) (requests : List Request) :
    let rest := serve provisioner store world.quiet requests
    serve provisioner store world (⟨"POST", "/v1/volumes/delete", body⟩ :: requests)
      = (⟨(Answer.ofFailure failure).sent, []⟩ :: rest.1, rest.2) := by
  have ran : Action.runIn world.quiet
      (answer provisioner store ⟨"POST", "/v1/volumes/delete", body⟩)
        = (.error failure, world.quiet) := by
    rw [answer_delete provisioner read accepted, deleteVolume, unparsed,
      Action.runIn_bind_error (Action.runIn_lift _)]
  rw [serve_cons, exchange, ran]
  rfl

/-- A manifest without a name or without a source is the caller's mistake. -/
theorem serve_of_refused (provisioner : Option Provisioner) {cause : Failure.Cause}
    (read : readBody body = .members members) (accepted : manifestOf members = .ok manifest)
    (scalar : (Json.object manifest).isScalar = true)
    (refused : Volume.ofManifest manifest = .error (.declared cause)) (requests : List Request) :
    let rest := serve provisioner store world.quiet requests
    serve provisioner store world (⟨"POST", "/v1/volumes/delete", body⟩ :: requests)
      = (⟨⟨400, errorObject "VALIDATION_ERROR" cause⟩, []⟩ :: rest.1, rest.2) := by
  have sendable := Answer.isSendable_ofCause (Volume.isScalar_of_refused scalar refused)
  have answered : Answer.ofCause cause = ⟨400, errorObject "VALIDATION_ERROR" cause⟩ := by
    rcases Volume.refusal_of_ofManifest refused with rfl | ⟨_, _, rfl⟩ <;> rfl
  rw [serve_of_unparsed provisioner read accepted refused requests, Answer.ofFailure,
    Answer.sent_of_isSendable sendable, answered]

end Requests

/-- Parsing a manifest ends in a fault exactly if the manifest is misshapen.  It succeeds if
the manifest also has a name and a source, and otherwise refuses it as that of an invalid
volume.  A request to delete by a misshapen manifest is answered as an internal error, and one
by a refused manifest as the caller's mistake, if the manifest holds no lone surrogate. -/
theorem misshapen_manifest_faults (manifest : List (Text × Json)) :
    ((∃ fault, Volume.ofManifest manifest = .error (.unexpected fault))
        ↔ Volume.Misshapen (.object manifest))
      ∧ ((∃ volume, Volume.ofManifest manifest = .ok volume)
        ↔ Volume.IsNamed (.object manifest) ∧ Volume.HasSource (.object manifest)
          ∧ ¬Volume.Misshapen (.object manifest))
      ∧ (∀ cause, Volume.ofManifest manifest = .error (.declared cause) →
          cause.kind = .invalidVolume)
      ∧ ∀ (provisioner : Option Provisioner) (store : Store) (world : World) (body : Octets)
          (members : List (Text × Json)) (requests : List Request),
          readBody body = .members members → manifestOf members = .ok manifest →
            let served := serve provisioner store world
              (⟨"POST", "/v1/volumes/delete", body⟩ :: requests)
            let rest := serve provisioner store world.quiet requests
            (Volume.Misshapen (.object manifest) →
                served = (⟨.internalError, []⟩ :: rest.1, rest.2))
              ∧ ∀ cause, Volume.ofManifest manifest = .error (.declared cause) →
                (Json.object manifest).isScalar = true →
                  served
                    = (⟨⟨400, errorObject "VALIDATION_ERROR" cause⟩, []⟩ :: rest.1, rest.2) := by
  refine ⟨Volume.ofManifest_faults_iff manifest, Volume.ofManifest_reads_iff manifest,
    fun cause refused => ?_, ?_⟩
  · rcases Volume.refusal_of_ofManifest refused with rfl | ⟨_, _, rfl⟩ <;> rfl
  · intro provisioner store world body members requests read accepted served rest
    refine ⟨fun wrong => ?_, fun cause refused scalar =>
      serve_of_refused provisioner read accepted scalar refused requests⟩
    rcases (Volume.ofManifest_faults_iff manifest).mpr wrong with ⟨fault, unparsed⟩
    have sendable : Answer.internalError.body.isSendable = true := by decide
    have same : (Answer.ofFailure (.unexpected fault)).sent = .internalError :=
      Answer.sent_of_isSendable sendable
    rw [← same]
    exact serve_of_unparsed provisioner read accepted unparsed requests

/-- A number stands among the pairs of the annotations. -/
theorem misshapen_manifest_faults_sample :
    let manifest : List (Text × Json) :=
      [("metadata", .object [("name", .text "pv"), ("annotations", .array [.integer 1])]),
        ("spec", .object [("cephfs", .object [])])]
    let body := Utf8.ofString ("\x7b\"manifest\":\x7b\"metadata\":\x7b\"name\":\"pv\","
      ++ "\"annotations\":[1]\x7d,\"spec\":\x7b\"cephfs\":\x7b\x7d\x7d\x7d\x7d")
    (∃ fault, Volume.ofManifest manifest = .error (.unexpected fault))
      ∧ (serve none .memory {} [⟨"POST", "/v1/volumes/delete", body⟩]).1
          = [⟨⟨500, Answer.internalError.body⟩, []⟩] := by
  intro manifest body
  have wrong : Volume.Misshapen (.object manifest) := by
    refine @Volume.Misshapen.part _ rfl ⟨_, rfl⟩ ["metadata", "annotations"] .mapping
      (by decide) fun like => ?_
    cases like with
    | pairs pairs => exact nomatch pairs (.integer 1) List.mem_cons_self
    | silent silent => cases silent
  have read : readBody body = .members [("manifest", .object manifest)] := by decide +kernel
  rcases misshapen_manifest_faults manifest with ⟨faults, _, _, served⟩
  exact ⟨faults.mpr wrong,
    congrArg Prod.fst ((served none .memory {} body _ [] read rfl).1 wrong)⟩

/-- A text stands for the metadata. -/
theorem text_for_metadata_faults :
    let body := Utf8.ofString "\x7b\"manifest\":\x7b\"metadata\":\"x\"\x7d\x7d"
    Volume.ofManifest [("metadata", .text "x")]
        = .error (.unexpected (.lacks (.text "x") "get"))
      ∧ (serve (some { identity := "one" }) .memory {} [⟨"POST", "/v1/volumes/delete", body⟩]).1
          = [⟨.internalError, []⟩]
      ∧ Answer.internalError = ⟨500, .object [
          ("status", .text "error"),
          ("error", .object [
            ("code", .text "INTERNAL_ERROR"),
            ("message", .text "Internal server error"),
            ("retryable", .bool true),
            ("details", .object [])])]⟩ := by
  decide +kernel

end ShareProvisioner.Service
