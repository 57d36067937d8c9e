import ShareProvisioner.Entries
import ShareProvisioner.Outside.Files

/-!
# Surroundings

What an operation can see of its surroundings are files and environment variables.  A
tilde in front of a path stands for a home directory: alone for that in the environment,
before the name of a user for that in the list of users.
-/

namespace ShareProvisioner

structure Surroundings where
  files : Files := {}
  environment : Entries Text Text := []
deriving DecidableEq, Repr

namespace Surroundings

/-- The user and the home directory in a line of the list of users. -/
def userOf? (line : Text) : Option (Text × Text) :=
  match Text.pieces ':' line with
  | [name, _, _, _, _, home, _] => some (name, home)
  | _ => none

def homeOf? (files : Files) (user : Text) : Option Text :=
  match files.find "/etc/passwd" with
  | .ok (.file octets) =>
      let lines := Text.pieces '\n' (Utf8.decodeReplacing octets)
      (lines.filterMap userOf?).lookup user
  | _ => none

/-- A path below a home directory; nothing below the root is the root. -/
def belowHome (home rest : Text) : Text :=
  let path := home.trimRight (· = .char '/') ++ rest
  if path.isEmpty then "/" else path

/-- The path with its tilde replaced.  It stays if there is no such home. -/
def expandHome (surroundings : Surroundings) (path : Text) : Except Failure.Fault Text :=
  match path with
  | .char '~' :: rest =>
      let user := rest.takeWhile (· ≠ .char '/')
      let behind := rest.dropWhile (· ≠ .char '/')
      if user.isEmpty then
        .ok (((surroundings.environment.find? "HOME").map (belowHome · behind)).getD path)
      else do
        Files.checkName user
        return ((homeOf? surroundings.files user).map (belowHome · behind)).getD path
  | _ => .ok path

def absolute (surroundings : Surroundings) (path : Text) : Except Failure.Fault Text :=
  (surroundings.expandHome path).map surroundings.files.absolute

end Surroundings

end ShareProvisioner
