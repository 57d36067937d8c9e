import ShareProvisioner.Mapping
import ShareProvisioner.Text.Blank
import ShareProvisioner.Text.Case

/-!
# Parameters of a storage class

A storage class describes a cluster by parameters whose names are compared without
regard to letter case: `cluster`, `monitors`, `adminId`, `adminSecretName` and
`adminSecretNamespace`.  The bundle is checked as a whole: a name that is not known or
given twice is refused, so that a misspelt one never falls back to a default.
-/

namespace ShareProvisioner

structure StorageClass where
  name : Json
  provisioner : Json := .text []
  parameters : Mapping := []
deriving DecidableEq

/-- A checked bundle: how to reach the cluster, with a reference to the secret that
holds the administrator's key. -/
structure ClusterParameters where
  cluster : Json
  adminId : Json
  monitors : List Text
  secret : SecretReference
deriving DecidableEq

namespace Parameters

/-- The pieces of a comma separated list, without the white space around them and
without those that hold nothing else. -/
def monitors (value : Text) : List Text :=
  ((Text.pieces ',' value).map Text.strip).filter (!·.isEmpty)

example : monitors (Text.ofString " a:1,, b:2\u3000") = ["a:1", "b:2"].map Text.ofString := by
  decide

def names : List Text :=
  ["cluster", "monitors", "adminid", "adminsecretname", "adminsecretnamespace"].map Text.ofString

/-- The parameters under their names in small letters, if each name is known and given
once; the first that is not decides the failure. -/
def normalize (seen : Entries Text Json) : Mapping → Except Failure (Entries Text Json)
  | [] => .ok seen
  | (.text key, value) :: rest =>
      let name := key.lower
      if !names.contains name then .error (.declared (.unknownParameter key))
      else if (seen.find? name).isSome then .error (.declared (.duplicateParameter key))
      else normalize (seen.insert name value) rest
  | (key, _) :: _ => .error (.unexpected (.lacks key.toJson "lower"))

def monitorsOf : Json → Except Failure (List Text)
  | .text value => .ok (monitors value)
  | value => .error (.unexpected (.lacks value "split"))

/-- Checks a bundle.  The name of the secret and at least one monitor are required;
the other parameters have defaults, also in place of an empty value. -/
def resolve (parameters : Mapping) : Except Failure ClusterParameters := do
  let given ← normalize [] parameters
  let value (name : Text) (default : Text) : Json := (given.find? name).getD (.text default)
  let secretName := value "adminsecretname" []
  if !secretName.isTruthy then
    throw (.declared (.missingParameter "admin secret name"))
  let found ← monitorsOf (value "monitors" [])
  if found.isEmpty then
    throw (.declared (.missingParameter "monitors"))
  return {
    cluster := (value "cluster" []).orElse (.text "ceph")
    adminId := (value "adminid" []).orElse (.text "admin")
    monitors := found
    secret := {
      namespaceName := (value "adminsecretnamespace" []).orElse (.text "default")
      name := secretName } }

end Parameters

end ShareProvisioner
