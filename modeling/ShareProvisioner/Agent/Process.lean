import ShareProvisioner.Agent.Command
import ShareProvisioner.Outside.Files

/-!
# Running the agent

The agent runs once per command, to its end.  An operating system takes the texts for a
process as it takes the names of files: without NUL, and encoded so that some surrogates
stand for single octets.  So a command is checked before anything is started.  What the
agent prints is read as UTF-8 with replacement, each stream on its own, so that no output
is beyond reading.
-/

namespace ShareProvisioner.Agent

/-- What is handed to the operating system: the arguments, the agent's path first, and
the environment. -/
structure Invocation where
  arguments : List Text
  environment : List (Text × Text)
deriving DecidableEq, Repr

/-- How a run of the agent ends: it cannot be started, or it exits with a status and
its output. -/
inductive Outcome where
  | notStarted (code : Int) (reason : Text)
  | exited (status : Int) (standardOutput standardError : Octets)
deriving DecidableEq, Repr

def processText : Json → Except Failure.Fault Text
  | .text value => do
      Files.checkName value
      return value
  | value => .error (.notText value)

example : processText (.text [.surrogate 0x480]) = .ok [.surrogate 0x480] := rfl

def invocation (path : Text) (mode : Mode) (share user : Json) (connection : Connection) :
    Except Failure.Fault Invocation := do
  let arguments ← (.text path :: arguments mode share user).mapM processText
  let environment ← connection.environment.mapM fun (name, value) => do
    return (name, ← processText value)
  return { arguments, environment }

def outputText (octets : Octets) : Text :=
  (Utf8.decodeReplacing octets).normalizeLines

/-- What a run printed, if the agent started and exited with status zero. -/
def Outcome.output (path : Text) (mode : Mode) (share : Text) :
    Outcome → Except Failure.Cause Text
  | .notStarted code reason => .error (.agentFailed (.notStarted path code reason) [])
  | .exited status standardOutput standardError =>
      if status = 0 then .ok (outputText standardOutput)
      else .error (.agentFailed (.exited mode share status)
        (outputText standardOutput ++ outputText standardError))

end ShareProvisioner.Agent
