import ShareProvisioner.CommandLine.Word

/-!
# Arguments of the server

Every option may be shortened as long as it stays clear which one is meant.  The server
takes no words besides its options and their values.  An option to which two hyphens are
attached is given, but without a value.
-/

namespace ShareProvisioner.Server

open CommandLine

structure Arguments where
  configFiles : List (Option Text) := []
  host : Option Text := none
  portNumber : Option Int := none
  logLevel : Option Text := some "info"
deriving DecidableEq, Repr

inductive Flag where
  | shortHelp
  | help
  | configFile
  | host
  | portNumber
  | logLevel
deriving DecidableEq, Repr

namespace Flag

def all : List Flag := [shortHelp, help, configFile, host, portNumber, logLevel]

def name : Flag → Text
  | shortHelp => "-h"
  | help => "--help"
  | configFile => "--config-file"
  | host => "--host"
  | portNumber => "--port"
  | logLevel => "--log-level"

def ofName? (name : Text) : Option Flag :=
  all.find? (·.name = name)

end Flag

def attachedValue (text : Text) : Option Text :=
  if text = Text.ofString "--" then none else some text

namespace Arguments

def set (arguments : Arguments) (value : Option Text) : Flag → Except Stop Arguments
  | .configFile => .ok { arguments with configFiles := arguments.configFiles ++ [value] }
  | .host => .ok { arguments with host := value }
  | .portNumber =>
      match value with
      | none => .ok { arguments with portNumber := none }
      | some numeral =>
          match Text.integer? numeral with
          | some portNumber => .ok { arguments with portNumber := some portNumber }
          | none => .error .misuse
  | .logLevel => .ok { arguments with logLevel := value }
  | .shortHelp | .help => .error .misuse

/-- What becomes of an option with an attached text.  Letters attached to the short
option for help are short options as well, so all of them ask for help. -/
def setAttached (arguments : Arguments) (text : Text) : Flag → Except Stop Arguments
  | .shortHelp =>
      .error (if !text.isEmpty && text.all (· = .char 'h') then .help else .misuse)
  | flag => arguments.set (attachedValue text) flag

/-- Takes the words one after the other; `stray` tells whether there was one already
that does not belong to an option. -/
def take (arguments : Arguments) (stray : Bool) : List Word → Except Stop Arguments
  | [] => if stray then .error .misuse else .ok arguments
  | .value _ :: rest | .unknown :: rest => arguments.take true rest
  | .option name attached :: rest =>
      match Flag.ofName? name, attached, rest with
      | none, _, rest => arguments.take true rest
      | some .shortHelp, none, _ | some .help, none, _ => .error .help
      | some flag, some text, rest => do (← arguments.setAttached text flag).take stray rest
      | some flag, none, .value text :: rest => do
          (← arguments.set (some text) flag).take stray rest
      | some _, none, _ => .error .misuse

def read (words : List Text) : Except Stop Arguments := do
  take {} false (← Word.ofTexts (Flag.all.map Flag.name) words)

example : read (["--po=7", "--lo", "debug"].map Text.ofString) =
    .ok { portNumber := some 7, logLevel := some "debug" } := rfl
example : read (["--h"].map Text.ofString) = .error .misuse := rfl
example : read (["-hh"].map Text.ofString) = .error .help := rfl
example : read (["-hx"].map Text.ofString) = .error .misuse := rfl

end Arguments

end ShareProvisioner.Server
