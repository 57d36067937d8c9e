import ShareProvisioner.Agent.Command
import ShareProvisioner.Settings.Host
import ShareProvisioner.Text.Case
import ShareProvisioner.Text.Digit

/-!
# Settings

What can be set, of which kind each value is, and what holds where nothing is set.
-/

namespace ShareProvisioner

inductive SettingKind where
  | text
  | host
  | truth
  | integer (least greatest : Int)
deriving DecidableEq, Repr

namespace SettingKind

abbrev Value : SettingKind → Type
  | text | host => Text
  | truth => Bool
  | integer _ _ => Int

def truth? (word : Text) : Option Bool :=
  if (["true", "1", "on", "yes"].map Text.ofString).contains word.lower then some true
  else if (["false", "0", "off", "no"].map Text.ofString).contains word.lower then some false
  else none

/-- Reads a value of the kind.  The outer option is `none` where the text is no such
value; the inner one is `none` where the text leaves the value open, as an empty number
does. -/
def read? : (kind : SettingKind) → Text → Option (Option kind.Value)
  | text, given => some (some given)
  | host, given => (Host.ofText? given).map some
  | truth, given => (truth? given).map some
  | integer least greatest, given =>
      if given.strip.isEmpty then some none
      else ((Text.integer? given).filter fun number =>
        least ≤ number && number ≤ greatest).map some

def display : (kind : SettingKind) → kind.Value → Text
  | text, value | host, value => value
  | truth, value => Json.displayBool value
  | integer _ _, value => Text.ofInt value

def toJson : (kind : SettingKind) → kind.Value → Json
  | text, value | host, value => .text value
  | truth, value => .bool value
  | integer _ _, value => .integer value

end SettingKind

inductive Setting where
  | provisionerName
  | agentPath
  | endpoint
  | tokenFile
  | authorities
  | verification
  | timeout
  | retryCount
  | serviceHost
  | servicePortNumber
deriving DecidableEq, Repr

namespace Setting

def all : List Setting :=
  [provisionerName, agentPath, endpoint, tokenFile, authorities, verification, timeout,
    retryCount, serviceHost, servicePortNumber]

def sectionName : Text := "cephfs_provisioner"

def name : Setting → Text
  | provisionerName => "provisioner_name"
  | agentPath => "agent_path"
  | endpoint => "kube_api_endpoint"
  | tokenFile => "kube_api_token_file"
  | authorities => "kube_api_ca_bundle"
  | verification => "kube_api_verify_ssl"
  | timeout => "kube_api_timeout"
  | retryCount => "kube_api_retry_count"
  | serviceHost => "api_host"
  | servicePortNumber => "api_port"

def kind : Setting → SettingKind
  | provisionerName | agentPath | endpoint | tokenFile | authorities => .text
  | verification => .truth
  | timeout => .integer 1 300
  | retryCount => .integer 0 10
  | serviceHost => .host
  | servicePortNumber => .integer 0 65535

/-- The value of a setting that is not made. -/
def default? : (setting : Setting) → Option setting.kind.Value
  | provisionerName => some (Text.ofString "ceph.com/cephfs")
  | agentPath => some Agent.defaultPath
  | endpoint => none
  | tokenFile => some (Text.ofString "/var/run/secrets/kubernetes.io/serviceaccount/token")
  | authorities => some (Text.ofString "/var/run/secrets/kubernetes.io/serviceaccount/ca.crt")
  | verification => some true
  | timeout => some (30 : Int)
  | retryCount => some (3 : Int)
  | serviceHost => some (Text.ofString "127.0.0.1")
  | servicePortNumber => some (8080 : Int)

def help : Setting → Text
  | provisionerName =>
      "Provisioner name published on PersistentVolumes and matched against StorageClasses"
  | agentPath =>
      "Path of the allocation agent executable that creates and removes CephFS shares"
  | endpoint =>
      "Kubernetes API server URL (e.g., https://10.0.0.1:6443). If unset, the in-cluster "
        ++ "address from KUBERNETES_SERVICE_HOST and KUBERNETES_SERVICE_PORT is used."
  | tokenFile => "File containing the bearer token for the Kubernetes API"
  | authorities => "CA bundle used to verify the Kubernetes API server certificate"
  | verification => "Verify SSL certificates for Kubernetes API requests"
  | timeout => "Kubernetes API request timeout in seconds"
  | retryCount => "Number of retries for idempotent (GET) Kubernetes API requests"
  | serviceHost => "Bind address of the provisioner REST API"
  | servicePortNumber => "Bind port of the provisioner REST API"

def environmentName (setting : Setting) : Text :=
  "OS_" ++ sectionName.upper ++ "__" ++ setting.name.upper

def ofName? (name : Text) : Option Setting :=
  all.find? (·.name = name)

def display (setting : Setting) (value : Option setting.kind.Value) : Text :=
  (value.map setting.kind.display).getD []

/-- A value of the setting as answers show it; null stands for no value. -/
def toJson (setting : Setting) (value : Option setting.kind.Value) : Json :=
  (value.map setting.kind.toJson).getD .null

end Setting

end ShareProvisioner
