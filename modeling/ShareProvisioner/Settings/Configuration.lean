import ShareProvisioner.Settings.Reference
import ShareProvisioner.Settings.Setting
import ShareProvisioner.Settings.Source

/-!
# Configurations

A configuration is made from files and from the environment.  Of several values the
last one counts, a variable in the environment more than any file.  A value is only
judged when it is asked for, after the references in it have been replaced.
-/

namespace ShareProvisioner

/-- What has been set, in order, and what other values can refer to outside of the
section.  There is no text for a value that is just being made out. -/
structure Configuration where
  assignments : List Settings.Assignment := []
  environment : Entries Text Text := []
  others : Entries Text (Option Text) := []
deriving DecidableEq, Repr

namespace Configuration

def inFiles? (configuration : Configuration) (setting : Setting) : Option Text :=
  let made := configuration.assignments.filter fun assignment =>
    assignment.sectionName.lower = Setting.sectionName && assignment.key = setting.name
  made.getLast?.map (·.value)

def given? (configuration : Configuration) (setting : Setting) : Option Text :=
  match configuration.environment.find? setting.environmentName with
  | some value => some value
  | none => configuration.inFiles? setting

/-- Where a setting is made: in the environment only if no file makes it. -/
def origin (configuration : Configuration) (setting : Setting) : Failure.SettingOrigin :=
  if (configuration.inFiles? setting).isSome then .file else .environment

/-! ## References -/

def lookOutside (configuration : Configuration) (name : Text) : Except Failure.Fault Text :=
  if name = Setting.sectionName then .error (.wholeSection name)
  else
    match configuration.others.find? name with
    | some (some text) => .ok text
    | some none => .error (.endlessReference name)
    | none => .error (.noSetting name)

/-- The text that a name stands for, where `inSection` gives that of a setting and
`plain` that of a name without a section. -/
def look (inSection : Setting → Except Failure.Fault Text)
    (plain : Text → Except Failure.Fault Text) (name : Text) : Except Failure.Fault Text :=
  match name.cut? (· = .char '.') with
  | none => plain name
  | some (sectionName, key) =>
      if sectionName ≠ Setting.sectionName then .error (.noSection sectionName)
      else
        match Setting.ofName? key with
        | some setting => inSection setting
        | none => .error (.noSetting name)

/-- The text that a name stands for in the value of a setting: that of another setting,
whose section need not be given. -/
def lookInside (configuration : Configuration)
    (inSection : Setting → Except Failure.Fault Text) : Text → Except Failure.Fault Text :=
  look inSection fun name =>
    match Setting.ofName? name with
    | some setting => inSection setting
    | none => configuration.lookOutside name

/-- The value of a setting whose references lead to others up to the given depth. -/
def valueWithin (configuration : Configuration) :
    Nat → (setting : Setting) → Except Failure.Fault (Option setting.kind.Value)
  | 0, setting => .error (.endlessReference setting.name)
  | depth + 1, setting =>
      match configuration.given? setting with
      | none => .ok setting.default?
      | some given =>
          let inSection (other : Setting) :=
            (configuration.valueWithin depth other).map other.display
          let bad : Failure.Fault := .badSetting setting.name given (configuration.origin setting)
          match Settings.fillReferences (configuration.lookInside inSection) given with
          | .error (.badSetting _ _ _) => .error bad
          | .error fault => .error fault
          | .ok text =>
              match setting.kind.read? text with
              | some value => .ok value
              | none => .error bad

/-- The value of a setting.  References that lead farther than there are settings lead
nowhere. -/
def value (configuration : Configuration) (setting : Setting) :
    Except Failure.Fault (Option setting.kind.Value) :=
  configuration.valueWithin Setting.all.length setting

def fill (configuration : Configuration) (text : Text) : Except Failure.Fault Text :=
  let inSection (setting : Setting) := (configuration.value setting).map setting.display
  Settings.fillReferences (look inSection configuration.lookOutside) text

/-! ## Reading files -/

/-- Who reads a configuration: the options that a word may be taken for, and the values
known outside of the section. -/
structure Reader where
  options : List Text
  values : Entries Text Text := []
deriving DecidableEq, Repr

namespace Reader

def plain : Reader where
  options := ["-h", "--help", "--config-file", "--config-dir"].map Text.ofString

def logging : Reader where
  options := plain.options ++
    ["-d", "--debug", "--nodebug", "--log-config-append", "--log-config", "--log-date-format",
      "--log-file", "--logfile", "--log-dir", "--logdir", "--watch-log-file",
      "--nowatch-log-file", "--use-syslog", "--nouse-syslog", "--use-journal",
      "--nouse-journal", "--syslog-log-facility", "--use-json", "--nouse-json"].map Text.ofString
  values := [
    ("debug", "False"), ("log_config_append", ""), ("log_date_format", "%Y-%m-%d %H:%M:%S"),
    ("log_file", ""), ("log_dir", ""), ("watch_log_file", "False"), ("use_syslog", "False"),
    ("use_journal", "False"), ("syslog_log_facility", "LOG_USER"), ("use_json", "False")]

end Reader

def displayList (texts : List Text) : Text :=
  (Json.array (texts.map .text)).quoted

/-- The configuration in the files and the environment.  All files are read before an
absent one is complained about. -/
def load (surroundings : Surroundings) (reader : Reader) (names : List Text) :
    Except Failure.Fault Configuration := do
  let searched ← Settings.searchedDirectories surroundings
  let standard := Settings.search surroundings.files searched (Settings.project ++ ".conf")
  let directories := Settings.search surroundings.files searched (Settings.project ++ ".conf.d")
  let unnamed := (if names.isEmpty then standard else [])
    ++ directories.flatMap (Settings.settingsFilesIn surroundings.files)
  let unnamedSources ← unnamed.mapM (Settings.Source.read surroundings)
  let words ← Settings.wordsOf reader.options names
  let sources := unnamedSources ++ (← words.mapM (Settings.Source.ofWord surroundings))
  let others : Entries Text (Option Text) :=
    ("config_dir", some (displayList directories)) :: ("config_source", some (displayList []))
      :: reader.values.map fun (name, text) => (name, some text)
  let configuration : Configuration := {
    assignments := sources.flatMap fun source => source.content.getD []
    environment := surroundings.environment
    others := ("config_file", none) :: others }
  let given ← names.mapM configuration.fill
  let absent := sources.filter (·.content.isNone)
  if !absent.isEmpty then
    throw (.absentSettings (absent.map (·.path)))
  let files := if names.isEmpty then standard else given
  return { configuration with others := ("config_file", some (displayList files)) :: others }

end Configuration

end ShareProvisioner
