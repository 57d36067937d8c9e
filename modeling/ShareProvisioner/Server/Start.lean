import ShareProvisioner.Cluster.Endpoint
import ShareProvisioner.Provisioner
import ShareProvisioner.Server.Arguments

/-!
# Starting the server

The server runs one provisioner, which asks the cluster for secrets and classes.  Where
the service listens is taken from the arguments, and from the configuration where the
arguments say nothing.
-/

namespace ShareProvisioner.Server

structure Launch where
  host : Option Text
  portNumber : Option Int
  logLevel : Option Text
  provisioner : Provisioner
  client : Cluster.Client
deriving DecidableEq

/-- The host to listen at: that in the arguments, unless they name none. -/
def hostFor (configuration : Configuration) : Option Text → Except Failure.Fault (Option Text)
  | none | some [] => configuration.value .serviceHost
  | some host => .ok (some host)

/-- The number to listen at: that in the arguments, unless it is zero. -/
def portNumberFor (configuration : Configuration) : Option Int → Except Failure.Fault (Option Int)
  | none | some 0 => configuration.value .servicePortNumber
  | some portNumber => .ok (some portNumber)

/-- The names of the files to read settings from.  An option for such a file without a
value names none. -/
def fileNames (arguments : Arguments) : Except Failure.Fault (List Text) :=
  arguments.configFiles.mapM fun
    | some name => .ok name
    | none => .error (.lacks (.array []) "startswith")

def start (surroundings : Surroundings) (arguments : Arguments) : Action Launch := do
  let names ← Action.guarded (fileNames arguments)
  let configuration ← Action.guarded (Configuration.load surroundings .logging names)
  let client ← Action.guarded (Cluster.Client.ofConfiguration surroundings configuration)
  let agentPath ← Action.guarded (configuration.value .agentPath)
  let name ← Action.guarded (configuration.value .provisionerName)
  let provisioner ← Provisioner.make none name agentPath
  let host ← Action.guarded (hostFor configuration arguments.host)
  let portNumber ← Action.guarded (portNumberFor configuration arguments.portNumber)
  return { host, portNumber, logLevel := arguments.logLevel, provisioner, client }

end ShareProvisioner.Server
