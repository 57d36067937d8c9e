import ShareProvisioner.Failure.Fault

/-!
# Secrets

A secret holds entries of octets under names.  Which entry holds the administrator's
key is not fixed: a single entry is taken whatever its name, of several the one named
`key`, and else the one whose name comes first in the order of code points.
-/

namespace ShareProvisioner

/-- The content of an entry.  A store that keeps texts may hand them out undecoded. -/
inductive SecretValue where
  | octets (value : Octets)
  | text (value : Text)
deriving DecidableEq, Repr

abbrev SecretData := Entries Text SecretValue

namespace SecretData

def preferredName : Text := "key"

def least? : SecretData → Option (Text × SecretValue)
  | [] => none
  | entry :: rest =>
      match least? rest with
      | none => some entry
      | some other => some (if other.1 < entry.1 then other else entry)

def select? (data : SecretData) : Option SecretValue :=
  match data with
  | [(_, value)] => some value
  | _ =>
      match Entries.find? data preferredName with
      | some value => some value
      | none => data.least?.map (·.2)

def key (secret : SecretReference) (data : SecretData) : Except Failure.Cause Text :=
  match data.select? with
  | none => .error (.secretEmpty secret)
  | some (.octets value) =>
      match Utf8.decode value with
      | .error _ => .error (.secretInvalid secret)
      | .ok [] => .error (.secretEmpty secret)
      | .ok key => .ok key
  | some (.text []) => .error (.secretEmpty secret)
  | some (.text key) => .ok key

end SecretData

end ShareProvisioner
