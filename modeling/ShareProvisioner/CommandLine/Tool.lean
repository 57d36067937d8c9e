import ShareProvisioner.Cluster.Endpoint
import ShareProvisioner.CommandLine.Arguments
import ShareProvisioner.CommandLine.Bundle
import ShareProvisioner.Outside.Store
import ShareProvisioner.Text.Style

/-!
# The command line tool

`validate` shows the connection that a bundle describes, without asking the cluster.
`check-secret` asks the cluster for the secret that the bundle refers to, and never
shows the key in it.  Nothing is printed to a terminal, so it is printed without styles.
-/

namespace ShareProvisioner.CommandLine

/-- What a run of the tool leaves behind: its exit status and what it printed on
standard output and on standard error. -/
structure Report where
  status : Nat
  output : Text := []
  errors : Text := []
deriving DecidableEq, Repr

namespace Report

/-- A lone surrogate as an escape, so that the text can be printed. -/
def printable : CodePoint → Text
  | .char value => [.char value]
  | .surrogate offset => "\\u" ++ Text.hexadecimal 4 (0xD800 + offset.val)

def complaint (text : Text) : Report where
  status := 1
  errors := text.withoutStyles.flatMap printable ++ "\n"

/-- The report of a run that ends with nobody to handle its failure. -/
def unhandled (message : Text) : Report :=
  complaint ("Error: " ++ message)

/-- The report with `line` printed before everything else, if it can be printed. -/
def afterLine (line : Text) (report : Report) : Report :=
  match Utf8.encode line.withoutStyles with
  | .ok _ => { report with output := line.withoutStyles ++ "\n" ++ report.output }
  | .error fault => unhandled fault.message

def ofLines (lines : List Text) : Report :=
  lines.foldr afterLine { status := 0 }

def misuse : Report where
  status := 2

end Report

def showSecret (secret : SecretReference) : Text :=
  secret.namespaceName.display ++ "/" ++ secret.name.display

def describe (parameters : ClusterParameters) : List Text :=
  ["cluster: " ++ parameters.cluster.display,
    "adminId: " ++ parameters.adminId.display,
    "monitors: " ++ Text.join "," parameters.monitors,
    "adminSecret: " ++ showSecret parameters.secret]

def resolve (files : Files) (given : Given) : Except Failure ClusterParameters :=
  match Bundle.load files given.options (given.file.map Path.ofText) with
  | .ok bundle => Parameters.resolve (.ofTexts bundle)
  | .error fault => .error (.unexpected fault)

def isAboutRequest : Failure → Bool
  | .declared cause => cause.kind.isA .invalidRequest
  | .unexpected _ => false

def validate (files : Files) (given : Given) : Report :=
  match resolve files given with
  | .ok parameters => .ofLines (describe parameters)
  | .error failure =>
      let reason : Text :=
        if isAboutRequest failure then "Invalid parameters: " else "Error reading parameters: "
      .complaint (reason ++ failure.message)

def findSecret (surroundings : Surroundings) (given : Given) : Action SecretReference := do
  let parameters ← Action.lift (resolve surroundings.files given)
  let configuration ← Action.guarded (Configuration.load surroundings .plain given.configFiles)
  let client ← Action.guarded (Cluster.Client.ofConfiguration surroundings configuration)
  let _ ← (Store.cluster client).adminKey parameters.secret
  return parameters.secret

def reportSecret : Except Failure SecretReference → Report
  | .ok secret => .ofLines ["Admin secret found in " ++ showSecret secret]
  | .error (.unexpected (.misplacedOption _)) => .misuse
  | .error failure => .complaint ("Error checking admin secret: " ++ failure.message)

def perform (surroundings : Surroundings) (world : World) (command : Command) (given : Given) :
    Report × World :=
  match command with
  | .validate => (validate surroundings.files given, world)
  | .checkSecret =>
      let (result, world) := Action.runIn world (findSecret surroundings given)
      (reportSecret result, world)

def run (surroundings : Surroundings) (world : World) (words : List Text) : Report × World :=
  match read words with
  | .error .help => ({ status := 0 }, world)
  | .error .misuse => (.misuse, world)
  | .ok (command, given) =>
      match Files.checkName (given.file.getD []) with
      | .error fault => (.unhandled fault.message, world)
      | .ok _ => perform surroundings world command given

end ShareProvisioner.CommandLine
