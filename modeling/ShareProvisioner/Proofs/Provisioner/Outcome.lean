import ShareProvisioner.Proofs.Agent.Output
import ShareProvisioner.Proofs.Provisioner.Delete
import ShareProvisioner.Proofs.Text.Decoding
import ShareProvisioner.Proofs.Text.Lines

/-!
# How commands end

A command is one run of the agent, and however that ends, the command ends with a result or
with a declared failure.  Only a run that exits with status zero counts, and of that only what
it prints to the first stream; a run that does not is reported with all that it printed.
-/

namespace ShareProvisioner

namespace Agent

/-! ## What is printed -/

theorem isScalar_outputText (octets : Octets) : (outputText octets).isScalar = true :=
  Text.isScalar_normalizeLines (Utf8.isScalar_decodeReplacing octets)

theorem outputText_of_encode {text : Text} {octets : Octets}
    (encoded : Utf8.encode text = .ok octets) : outputText octets = text.normalizeLines := by
  rw [outputText, Utf8.decodeReplacing_of_encode encoded]

/-! ## Failed runs -/

/-- How a run is reported that cannot be started or exits with another status than zero. -/
inductive Outcome.FailsWith (path : Text) (mode : Mode) (share : Text) :
    Outcome → Failure.Notice → Prop
  | notStarted (code : Int) (reason : Text) : FailsWith path mode share (.notStarted code reason)
      (.failedRun ("cannot execute " ++ path ++ ": [Errno " ++ Text.ofInt code ++ "] " ++ reason)
        [] .null)
  | exited {status : Int} (failed : status ≠ 0) (standardOutput standardError : Octets) :
      FailsWith path mode share (.exited status standardOutput standardError)
        (.failedRun
          (mode.name ++ " of share " ++ share ++ " exited with status " ++ Text.ofInt status)
          (outputText standardOutput ++ outputText standardError) (.integer status))

section Outcomes

variable {outcome : Outcome} {path share : Text} {mode : Mode}

theorem Outcome.FailsWith.exists_cause {notice : Failure.Notice}
    (fails : outcome.FailsWith path mode share notice) :
    ∃ cause, outcome.output path mode share = .error cause
      ∧ Failure.Notice.ofCause cause = notice := by
  cases fails with
  | notStarted code reason => exact ⟨_, rfl, Failure.Notice.ofCause_agentFailed _ _⟩
  | exited failed standardOutput standardError =>
      exact ⟨_, if_neg failed, Failure.Notice.ofCause_agentFailed _ _⟩

/-- What creating makes of an outcome. -/
theorem Outcome.record_eq_ok_iff {record : Record} :
    outcome.output path mode share >>= Record.parse = .ok record ↔ outcome.Reports record := by
  rw [Result.bind_eq_ok_iff]
  constructor
  · rintro ⟨output, printed, parsed⟩
    rcases output_eq_ok_iff.mp printed with ⟨standardOutput, standardError, rfl, rfl⟩
    exact ⟨standardOutput, standardError, rfl, parsed⟩
  · rintro ⟨standardOutput, standardError, rfl, parsed⟩
    exact ⟨_, rfl, parsed⟩

theorem Outcome.exists_output_iff :
    (∃ output, outcome.output path mode share = .ok output) ↔ outcome.Succeeds := by
  constructor
  · rintro ⟨output, printed⟩
    rcases output_eq_ok_iff.mp printed with ⟨standardOutput, standardError, rfl, _⟩
    exact ⟨standardOutput, standardError, rfl⟩
  · rintro ⟨standardOutput, standardError, rfl⟩
    exact ⟨_, rfl⟩

theorem refusal_of_not_reports {standardOutput standardError : Octets}
    (noRecord : ∀ record, ¬(Outcome.exited 0 standardOutput standardError).Reports record) :
    ∃ problem, Record.parse (outputText standardOutput)
      = .error (.badRecord problem (outputText standardOutput)) := by
  cases parsed : Record.parse (outputText standardOutput) with
  | ok record => exact absurd ⟨_, _, rfl, parsed⟩ (noRecord record)
  | error cause =>
      rcases Record.refusal_of_parse parsed with ⟨problem, rfl⟩
      exact ⟨problem, rfl⟩

end Outcomes

end Agent

namespace Provisioner

/-- A command is one run of the agent.  Creating returns what the first stream of a successful
run says and destroying returns after any such run; all else that can happen is a declared
failure, with what was printed and the status. -/
theorem commands_classify_outcomes (provisioner : Provisioner) (world : World)
    (share user cluster adminId adminKey : Text) (monitors : List Text)
    (plain : ∀ text ∈ provisioner.agentPath :: share :: user :: cluster :: adminId :: adminKey
      :: monitors, text.IsPlain) :
    let connection : Connection :=
      { cluster := .text cluster, adminId := .text adminId, adminKey, monitors }
    let created := Action.runIn world (provisioner.createShare share user connection)
    let destroyed :=
      Action.runIn world (provisioner.destroyShare (.text share) (.text user) connection)
    let path := provisioner.agentPath
    let outcome := world.nextOutcome
    ((∃ invocation, created.2 = world.launched invocation)
        ∧ ∃ invocation, destroyed.2 = world.launched invocation)
      ∧ ((∀ record, created.1 = .ok record ↔ outcome.Reports record)
        ∧ (destroyed.1 = .ok () ↔ outcome.Succeeds))
      ∧ ((∀ notice, outcome.FailsWith path .create share notice → notice.Ends created.1)
        ∧ (∀ notice, outcome.FailsWith path .destroy share notice → notice.Ends destroyed.1)
        ∧ ∀ standardOutput standardError, outcome = .exited 0 standardOutput standardError →
          (∀ record, ¬outcome.Reports record) → ∃ details,
            (Failure.Notice.badOutput details (Agent.outputText standardOutput)).Ends created.1)
      ∧ (∀ fault, created.1 ≠ .error (.unexpected fault)
        ∧ destroyed.1 ≠ .error (.unexpected fault))
      ∧ ∀ octets, (Agent.outputText octets).isScalar = true
        ∧ ∀ text, Utf8.encode text = .ok octets → Agent.outputText octets = text.normalizeLines := by
  intro connection created destroyed path outcome
  have pathPlain : path.IsPlain := plain path List.mem_cons_self
  have sharePlain : share.IsPlain := plain _ (by simp)
  have userPlain : user.IsPlain := plain _ (by simp)
  have settings : ∀ setting ∈ [cluster, Text.join "," monitors, adminId, adminKey],
      setting.IsPlain := by
    have joined : (Text.join "," monitors).IsPlain :=
      .join (by decide) fun monitor member => plain monitor (by simp [member])
    simpa [joined] using ⟨plain cluster (by simp), plain adminId (by simp), plain adminKey (by simp)⟩
  have invoked (mode : Agent.Mode) : ∃ invocation,
      Agent.invocation path mode (.text share) (.text user) connection = .ok invocation := by
    have options : ∀ option ∈ [("-n" : Text), "-u", "-r"], option.IsPlain := by decide
    have words : ∀ word ∈ path :: Agent.words mode share user, word.IsPlain := by
      cases mode <;> simp_all [Agent.words]
    exact Agent.exists_invocation mode rfl rfl (fun word member => (words word member).isPassable)
      fun setting member => (settings setting member).isPassable
  rcases invoked .create with ⟨creation, creationInvoked⟩
  rcases invoked .destroy with ⟨destruction, destructionInvoked⟩
  have createdIs : created = ((outcome.output path .create share
      >>= Agent.Record.parse).mapError .declared, world.launched creation) :=
    runIn_createShare_ok creationInvoked
  have destroyedIs : destroyed = (((outcome.output path .destroy share).mapError
      .declared).map fun _ => (), world.launched destruction) :=
    runIn_destroyShare_ok destructionInvoked
  rw [createdIs, destroyedIs]
  refine ⟨⟨⟨creation, rfl⟩, destruction, rfl⟩, ⟨fun record => ?_, ?_⟩, ⟨?_, ?_, ?_⟩, ?_,
    fun octets => ⟨Agent.isScalar_outputText octets, fun text => Agent.outputText_of_encode⟩⟩
  · rw [Result.mapError_eq_ok_iff, Agent.Outcome.record_eq_ok_iff]
  · simp only [Result.map_eq_ok_iff, Result.mapError_eq_ok_iff, and_true,
      Agent.Outcome.exists_output_iff]
  · intro notice fails
    rcases fails.exists_cause with ⟨cause, failed, rfl⟩
    rw [failed]
    exact Failure.Notice.ends_ofCause cause
  · intro notice fails
    rcases fails.exists_cause with ⟨cause, failed, rfl⟩
    rw [failed]
    exact Failure.Notice.ends_ofCause cause
  · intro standardOutput standardError exited noRecord
    rw [exited] at noRecord ⊢
    rcases Agent.refusal_of_not_reports noRecord with ⟨problem, refused⟩
    exact ⟨_, _, congrArg (Except.mapError Failure.declared) refused,
      Failure.Notice.ofCause_badRecord problem _⟩
  · intro fault
    constructor
    · cases outcome.output path .create share >>= Agent.Record.parse <;> (intro same; cases same)
    · cases outcome.output path .destroy share <;> (intro same; cases same)

/-- A run that fails in the middle of a character, in both of its streams, and a run that exits
with status zero and has printed an empty object. -/
theorem commands_classify_outcomes_sample :
    let provisioner : Provisioner := { identity := "one" }
    let connection : Connection :=
      { cluster := .text "c", adminId := .text "a", adminKey := "k", monitors := ["m", "n"] }
    let failing : World := { runs := [.exited (-9) [0x61, 0xE2] [0x82, 0x0D, 0x0A]] }
    let silent : World := { runs := [.exited 0 [0x7B, 0x7D] [0x21]] }
    (∀ text ∈ provisioner.agentPath :: ["s", "u", "c", "a", "k", "m", "n"], text.IsPlain)
      ∧ (Failure.Notice.failedRun "create of share s exited with status -9" "a\uFFFD\uFFFD\n"
        (.integer (-9))).Ends (Action.runIn failing (provisioner.createShare "s" "u" connection)).1
      ∧ (∃ details, (Failure.Notice.badOutput details "\x7b\x7d").Ends
        (Action.runIn silent (provisioner.createShare "s" "u" connection)).1)
      ∧ (Action.runIn silent
        (provisioner.destroyShare (.text "s") (.text "u") connection)).1 = .ok () := by
  intro provisioner connection failing silent
  have plain : ∀ text ∈ provisioner.agentPath :: ["s", "u", "c", "a", "k", "m", "n"],
      text.IsPlain := by decide
  have fails : failing.nextOutcome.FailsWith provisioner.agentPath .create "s"
      (.failedRun "create of share s exited with status -9" "a\uFFFD\uFFFD\n" (.integer (-9))) :=
    .exited (by decide) _ _
  have noRecord (record : Agent.Record) : ¬silent.nextOutcome.Reports record := by
    rintro ⟨_, _, ⟨⟩, parsed⟩
    have refused : Agent.Record.parse (Agent.outputText [0x7B, 0x7D])
        = .error (.badRecord (.incomplete [.path, .user, .auth]) "\x7b\x7d") := by decide +kernel
    cases parsed.symm.trans refused
  have classified (world : World) := commands_classify_outcomes provisioner world "s" "u" "c" "a"
    "k" ["m", "n"] plain
  exact ⟨plain, (classified failing).2.2.1.1 _ fails,
    (classified silent).2.2.1.2.2 _ _ rfl noRecord,
    (classified silent).2.1.2.mpr ⟨_, _, rfl⟩⟩

end Provisioner

end ShareProvisioner
