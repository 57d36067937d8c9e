import ShareProvisioner.Json.Value

/-!
# Commands for the allocation agent

The agent is a program that creates or destroys a share together with a client user.
What it is to do stands in its arguments; how to reach the cluster as its
administrator stands in its environment, which holds nothing else.
-/

namespace ShareProvisioner

/-- What is needed to reach a cluster as its administrator.  The texts that a storage
class supplies are taken from it as they are. -/
structure Connection where
  cluster : Json
  adminId : Json
  adminKey : Text
  monitors : List Text
deriving DecidableEq

namespace Connection

def environment (connection : Connection) : List (Text × Json) :=
  [("CLUSTER_NAME", connection.cluster),
    ("MONITORS", .text (Text.join "," connection.monitors)),
    ("AUTH_ID", connection.adminId),
    ("AUTH_KEY", .text connection.adminKey)]

/-- The connection as shown in logs, without its key. -/
def display (connection : Connection) : Text :=
  "ClusterConnection(cluster=" ++ connection.cluster.quoted ++ ", admin_id="
    ++ connection.adminId.quoted ++ ", monitors="
    ++ (Json.array (connection.monitors.map .text)).quoted ++ ")"

end Connection

namespace Agent

inductive Mode where
  | create
  | destroy
deriving DecidableEq, Repr

def Mode.name : Mode → Text
  | .create => "create"
  | .destroy => "destroy"

def Mode.ofName? (name : Text) : Option Mode :=
  [Mode.create, Mode.destroy].find? (·.name = name)

def arguments (mode : Mode) (share user : Json) : List Json :=
  let target : List Json := [.text "-n", share, .text "-u", user]
  match mode with
  | .create => target
  | .destroy => .text "-r" :: target

def defaultPath : Text := "/usr/local/bin/cephfs_provisioner"

end Agent

end ShareProvisioner
