import ShareProvisioner.Failure.Fault

/-!
# Failures with a wording of their own

A failure can be reported with any message, which is then a format for its arguments;
without one, or with one that says nothing, the template of its kind is used.
-/

namespace ShareProvisioner.Failure

/-- A failure as reported: its kind and message and, for failures of the agent, the
output and the exit status that came with it. -/
structure Notice where
  kind : Kind
  message : Text
  output : Json
  returnCode : Json
deriving DecidableEq

namespace Notice

def isAgentDetail (kind : Kind) (name : Text) : Bool :=
  kind.isA .agentFailed && (name = "output" || name = "returncode")

/-- The message of a failure of the given kind.  Only a text is a format. -/
def messageFor (kind : Kind) (message : Json) (arguments : Entries Text Json) :
    Except Format.Fault Text :=
  if message.isTruthy then
    match message with
    | .text format => Format.fill arguments format
    | _ => .error .wrongKind
  else kind.template.fill arguments

def make (kind : Kind) (message : Json) (arguments : Entries Text Json) :
    Except Format.Fault Notice := do
  let shown := arguments.filter fun (name, _) => !isAgentDetail kind name
  return {
    kind
    message := ← messageFor kind message shown
    output := (arguments.find? "output").getD (.text [])
    returnCode := (arguments.find? "returncode").getD .null }

def ofCause (cause : Cause) : Notice where
  kind := cause.kind
  message := cause.message
  output := .text cause.output
  returnCode := (cause.returnCode.map Json.integer).getD .null

end Notice

end ShareProvisioner.Failure
