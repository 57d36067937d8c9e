import ShareProvisioner.CommandLine.Word

/-!
# Arguments of the command line tool

The tool has one group of commands, `parameters`, with the commands `validate` and
`check-secret`.  Each level may have options of its own; options and other words of a
command may be mixed, and two hyphens end the options.
-/

namespace ShareProvisioner.CommandLine

structure Given where
  options : List Text := []
  file : Option Text := none
  configFiles : List Text := []
  help : Bool := false
deriving DecidableEq, Repr

inductive Command where
  | validate
  | checkSecret
deriving DecidableEq, Repr

def Command.name : Command → Text
  | .validate => "validate"
  | .checkSecret => "check-secret"

def Command.ofName? (name : Text) : Option Command :=
  [Command.validate, Command.checkSecret].find? (·.name = name)

inductive Flag where
  | file
  | configFile
deriving DecidableEq, Repr

/-- What a word that is an option asks for; a value may be attached to it. -/
inductive Wish where
  | help
  | give (flag : Flag) (attached : Option Text)
deriving DecidableEq, Repr

def isOption (word : Text) : Bool :=
  word.head? = some (.char '-') && word.length ≠ 1

def wish? (command : Command) (word : Text) : Option Wish :=
  let (name, attached) := splitAttached word
  if name = Text.ofString "--help" then
    if attached.isNone then some .help else none
  else if name = Text.ofString "--file" then some (.give .file attached)
  else if name = Text.ofString "--config-file" && command = .checkSecret then
    some (.give .configFile attached)
  else match word with
    | [.char '-', .char 'f'] => some (.give .file none)
    | .char '-' :: .char 'f' :: value => some (.give .file (some value))
    | _ => none

/-- The value given to an option; of several files the last one counts. -/
def Given.set (given : Given) (value : Text) : Flag → Given
  | .file => { given with file := some value }
  | .configFile => { given with configFiles := given.configFiles ++ [value] }

/-- Reads the words behind a command.  The word after an option that takes a value is
that value, whatever it looks like. -/
def readWords (command : Command) (given : Given) : List Text → Except Stop Given
  | [] => .ok given
  | word :: rest =>
      if word = Text.ofString "--" then .ok { given with options := given.options ++ rest }
      else if isOption word then
        match wish? command word, rest with
        | none, _ => .error .misuse
        | some .help, rest => readWords command { given with help := true } rest
        | some (.give flag (some value)), rest => readWords command (given.set value flag) rest
        | some (.give flag none), value :: rest => readWords command (given.set value flag) rest
        | some (.give _ none), [] => .error .misuse
      else readWords command { given with options := given.options ++ [word] } rest

def named (help : Bool) : List Text → Except Stop (Text × List Text)
  | words =>
      if help then .error .help
      else match words with
        | [] => .error .misuse
        | name :: rest => .ok (name, rest)

def readName (help : Bool) : List Text → Except Stop (Text × List Text)
  | [] => named help []
  | word :: rest =>
      if word = Text.ofString "--" then named help rest
      else if isOption word then
        if word = Text.ofString "--help" then readName true rest else .error .misuse
      else named help (word :: rest)

def read (words : List Text) : Except Stop (Command × Given) := do
  let (group, rest) ← readName false words
  if group ≠ Text.ofString "parameters" then
    throw .misuse
  let (name, rest) ← readName false rest
  let some command := Command.ofName? name
    | throw .misuse
  let given ← readWords command {} rest
  if given.help then throw .help else return (command, given)

end ShareProvisioner.CommandLine
