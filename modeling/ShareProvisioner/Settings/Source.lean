import ShareProvisioner.CommandLine.Word
import ShareProvisioner.Outside.Surroundings
import ShareProvisioner.Settings.Document

/-!
# Sources of settings

Files with settings are named when a program is started; where none is, the standard
file is looked for in the home directory, below `/etc`, and where a package is installed.
Besides, a directory of files is looked for in the same places.  A name that the program
would take for one of its options cannot be that of a file.
-/

namespace ShareProvisioner.Settings

/-! ## Standard places -/

def project : Text := "cephfs-provisioner"

def inDirectory (directory name : Text) : Text :=
  if directory.getLast? = some (.char '/') then directory ++ name else directory ++ "/" ++ name

/-- The directories in which an installed package keeps its settings. -/
def packageDirectories (environment : Entries Text Text) : List Text :=
  let roots := ["SNAP_COMMON", "SNAP"].filterMap fun name => environment.find? (Text.ofString name)
  (roots.filter (!·.isEmpty)).map fun root => inDirectory (inDirectory root "etc") project

def searchedDirectories (surroundings : Surroundings) : Except Failure.Fault (List Text) := do
  return [
    ← surroundings.absolute ("~/." ++ project),
    ← surroundings.absolute "~",
    inDirectory "/etc" project,
    "/etc"] ++ packageDirectories surroundings.environment

/-- The first path to the name that exists in one of the directories. -/
def search (files : Files) (directories : List Text) (name : Text) : List Text :=
  ((directories.map fun directory => inDirectory directory name).find? files.contains).toList

def isSettingsName (name : Text) : Bool :=
  (Text.ofString ".conf").isSuffixOf name && name.head? ≠ some (.char '.')

/-- The files with settings in a directory, in the order of their names. -/
def settingsFilesIn (files : Files) (directory : Text) : List Text :=
  let place := ((Path.ofText directory).below files.directory).flatten.names
  let names := ((files.namesIn place).filter isSettingsName).eraseDups
  (names.mergeSort fun left right => !(right < left)).map fun name => inDirectory directory name

/-! ## Reading -/

/-- A file with settings: the path to it, and what it holds if there is one. -/
structure Source where
  path : Text
  content : Option (List Assignment)
deriving DecidableEq, Repr

def Source.read (surroundings : Surroundings) (name : Text) : Except Failure.Fault Source := do
  let path ← surroundings.absolute name
  match surroundings.files.read path with
  | .error (.unreadable _ .absent) => return { path, content := none }
  | .error fault => throw fault
  | .ok octets =>
      match readDocument (← Files.linesOf octets) with
      | .ok assignments => return { path, content := some assignments }
      | .error line => throw (.malformedSettings path line)

/-- What the names are as words, where options of the given names are known.  Two hyphens
cannot be a name, and what is behind them is not looked at. -/
def wordsOf (options : List Text) : List Text → Except Failure.Fault (List CommandLine.Word)
  | [] => .ok []
  | name :: rest =>
      if name = Text.ofString "--" then .ok [.unknown]
      else
        match CommandLine.Word.ofText options name with
        | .ok word => (wordsOf options rest).map (word :: ·)
        | .error _ => .error (.misplacedOption name)

def Source.ofWord (surroundings : Surroundings) : CommandLine.Word → Except Failure.Fault Source
  | .value name => Source.read surroundings name
  | .option name _ => .error (.misplacedOption name)
  | .unknown => .error (.misplacedOption [])

end ShareProvisioner.Settings
