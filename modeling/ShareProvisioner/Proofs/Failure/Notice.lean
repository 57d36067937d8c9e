import ShareProvisioner.Failure.Custom

/-!
# Notices of refusals

A declared failure shows its caller a kind and a message, and with it what the agent
printed and returned, if the agent had a part in it.
-/

namespace ShareProvisioner.Failure.Notice

/-- The notice of a failure in which the agent has no part. -/
def plain (kind : Kind) (message : Text) : Notice where
  kind := kind
  message := message
  output := .text []
  returnCode := .null

/-- The notice of output of the agent that makes no record. -/
def badOutput (details output : Text) : Notice where
  kind := .agentOutput
  message := "invalid provisioner output: " ++ details
  output := .text output
  returnCode := .null

/-- The notice of a run of the agent that failed. -/
def failedRun (details output : Text) (returnCode : Json) : Notice where
  kind := .agentFailed
  message := "Allocation agent failed: " ++ details
  output := .text output
  returnCode := returnCode

/-- Whether an operation ends in the declared failure of which a notice tells. -/
def Ends {α : Type} (notice : Notice) (result : Except Failure α) : Prop :=
  ∃ cause, result = .error (.declared cause) ∧ ofCause cause = notice

theorem ofCause_apiTimeout (seconds : Json) : ofCause (.apiTimeout seconds)
    = .plain .apiTimeout ("Kubernetes API request timed out after " ++ seconds.display
      ++ " seconds") := by
  rw [List.append_assoc]
  rfl

theorem ofCause_apiUnreachable (details : Text) : ofCause (.apiUnreachable details)
    = .plain .apiUnreachable ("Failed to connect to Kubernetes API: " ++ details) := by
  have filled : ofCause (.apiUnreachable details) = .plain .apiUnreachable
      ("Failed to connect to Kubernetes API: " ++ (details ++ [] : Text)) := rfl
  rwa [List.append_nil] at filled

theorem ofCause_apiFailed (problem : ApiProblem) : ofCause (.apiFailed problem)
    = .plain .apiFailed ("Kubernetes API error: " ++ problem.details) := by
  have filled : ofCause (.apiFailed problem)
      = .plain .apiFailed ("Kubernetes API error: " ++ (problem.details ++ [] : Text)) := rfl
  rwa [List.append_nil] at filled

theorem ofCause_agentFailed (problem : AgentProblem) (output : Text) :
    ofCause (.agentFailed problem output) = .failedRun problem.details output
      (((Cause.agentFailed problem output).returnCode.map Json.integer).getD .null) := by
  have filled : ofCause (.agentFailed problem output)
      = .failedRun (problem.details ++ [] : Text) output
        (((Cause.agentFailed problem output).returnCode.map Json.integer).getD .null) := rfl
  rwa [List.append_nil] at filled

theorem ofCause_badRecord (problem : RecordProblem) (output : Text) :
    ofCause (.badRecord problem output) = .badOutput problem.details output := by
  have filled : ofCause (.badRecord problem output)
      = .badOutput (problem.details ++ [] : Text) output := rfl
  rwa [List.append_nil] at filled

theorem ends_ofCause {α : Type} (cause : Cause) :
    (ofCause cause).Ends (.error (.declared cause) : Except Failure α) :=
  ⟨cause, rfl, rfl⟩

end ShareProvisioner.Failure.Notice
