import ShareProvisioner.Failure.Fault

/-!
# The record of a created share

An agent that has created a share prints a JSON object with the share's path, the user
who may mount it and that user's key.  All three must be there and say something; the
record shows them as texts whatever kind of value they are.
-/

namespace ShareProvisioner.Agent

/-- A created share: where it is mounted from, by whom, and with which key. -/
structure Record where
  path : Text
  user : Text
  key : Text
deriving DecidableEq, Repr

namespace Record

/-- The fields of an object that are absent or say nothing. -/
def missing (members : List (Text × Json)) : List Failure.RecordField :=
  [.path, .user, .auth].filter fun field => !(Json.member members field.name).isTruthy

def parse (output : Text) : Except Failure.Cause Record :=
  match Json.read output with
  | .error fault => .error (.badRecord (.notJson fault) output)
  | .ok (.object members) =>
      if (missing members).isEmpty then
        .ok {
          path := (Json.member members Failure.RecordField.path.name).display
          user := (Json.member members Failure.RecordField.user.name).display
          key := (Json.member members Failure.RecordField.auth.name).display }
      else .error (.badRecord (.incomplete (missing members)) output)
  | .ok _ => .error (.badRecord .notObject output)

def display (record : Record) : Text :=
  "AllocationResult(path=" ++ record.path.quoted ++ ", user=" ++ record.user.quoted ++ ")"

end Record

/-- The path inside the file system: what stands before the first slash, such as the
address of a monitor, is left out. -/
def exportPath (path : Text) : Except Failure.Cause Text :=
  match path.dropWhile (· ≠ .char '/') with
  | [] => .error (.badRecord (.relativePath path) path)
  | absolute => .ok absolute

end ShareProvisioner.Agent
