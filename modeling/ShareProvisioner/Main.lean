import ShareProvisioner.CommandLine.Tool

/-!
# The program

The program looks at the files that its arguments and its configuration name and at the
standard places of settings, runs the command line tool on what it has found, and prints
what the tool reports.
-/

namespace ShareProvisioner.Program

def environmentNames : List Text :=
  ["HOME", "SNAP", "SNAP_COMMON", "KUBERNETES_SERVICE_HOST", "KUBERNETES_SERVICE_PORT"].map
      Text.ofString
    ++ Setting.all.map Setting.environmentName

/-- The list of users, and the files that the arguments name. -/
def namedFiles (surroundings : Surroundings) (words : List Text) : List Text :=
  match CommandLine.read words with
  | .ok (_, given) =>
      given.file.toList ++ given.configFiles.filterMap fun name =>
        (surroundings.absolute name).toOption
  | .error _ => []

def standardPaths (surroundings : Surroundings) (name : Text) : List Text :=
  match Settings.searchedDirectories surroundings with
  | .ok directories => directories.map fun directory => Settings.inDirectory directory name
  | .error _ => []

def configuredFiles (surroundings : Surroundings) (words : List Text) : List Text :=
  match CommandLine.read words with
  | .error _ => []
  | .ok (_, given) =>
      match Configuration.load surroundings .plain given.configFiles with
      | .error _ => []
      | .ok configuration =>
          [configuration.value .tokenFile, configuration.value .authorities].filterMap fun
            | .ok name => name
            | .error _ => none

def readEnvironment : IO (Entries Text Text) := do
  let settings ← environmentNames.mapM fun name => do
    return (← IO.getEnv name.toString).map fun value => (name, Text.ofString value)
  return settings.filterMap id

def placeOf (files : Files) (name : Text) : List Text :=
  ((Path.ofText name).below files.directory).flatten.names

/-- The given files and those of the given names that there are.  Of a directory the
names in it are noted as well. -/
def lookAt (files : Files) (names : List Text) : IO Files :=
  names.foldlM (fun files name => do
    let place := placeOf files name
    let path := (← IO.currentDir) / name.toString
    try
      if ← path.isDir then
        let entries ← path.readDir
        let found := entries.toList.map fun entry => place ++ [Text.ofString entry.fileName]
        return { files with directories := place :: found ++ files.directories }
      else
        let content ← IO.FS.readBinFile path
        return { files with contents := (place, content.toList) :: files.contents }
    catch _ => return files) files

def survey (words : List Text) : IO Surroundings := do
  let directory := (Path.ofText (Text.ofString (← IO.currentDir).toString)).names
  let environment ← readEnvironment
  let files ← lookAt { directory } ["/etc/passwd"]
  let surroundings : Surroundings := { files, environment }
  let files ← lookAt files (namedFiles surroundings words
    ++ standardPaths surroundings (Settings.project ++ ".conf"))
  let folders := standardPaths surroundings (Settings.project ++ ".conf.d")
  let files ← lookAt files folders
  let files ← lookAt files (folders.flatMap (Settings.settingsFilesIn files))
  let files ← lookAt files (configuredFiles { files, environment } words)
  return { files, environment }

def run (words : List Text) : IO UInt32 := do
  let (report, _) := CommandLine.run (← survey words) {} words
  IO.print report.output.toString
  IO.eprint report.errors.toString
  return report.status.toUInt32

end ShareProvisioner.Program

def main (arguments : List String) : IO UInt32 :=
  ShareProvisioner.Program.run (arguments.map ShareProvisioner.Text.ofString)
