import ShareProvisioner.Json.Reader
import ShareProvisioner.Outside.Files
import ShareProvisioner.Parameters

/-!
# Bundles of parameters

A bundle is collected from a file and from options of the form `KEY=VALUE`.  The file
holds a plain mapping or a storage class, of which the parameters are taken; every value
becomes a text.  The options follow in their order, and each replaces what was there
under its key.
-/

namespace ShareProvisioner

abbrev Bundle := Entries Text Text

namespace Bundle

def isStorageClass (members : List (Text × Json)) : Bool :=
  Json.member members "kind" = .text "StorageClass"

def mapping? : Json → Option (List (Text × Json))
  | .object members =>
      if isStorageClass members then
        match (Json.member members "parameters").orElse (.object []) with
        | .object parameters => some parameters
        | _ => none
      else some members
  | _ => none

def ofDocument (file document : Text) : Except Failure.Fault Bundle :=
  match Json.read document with
  | .error fault => .error (.malformedJson fault)
  | .ok value =>
      match mapping? value with
      | none => .error (.noMapping file)
      | some members =>
          .ok (Entries.ofList (members.map fun (name, value) => (name, value.display)))

def ofFile (files : Files) (path : Path) : Except Failure.Fault Bundle := do
  let octets ← files.read path.display
  ofDocument path.display (← Files.textOf octets)

/-- The key and the value of an option, which are parted by its first equals sign. -/
def entryOf (option : Text) : Except Failure.Fault (Text × Text) :=
  match option.cut? (· = .char '=') with
  | some entry => .ok entry
  | none => .error (.noValue option)

def addOptions (bundle : Bundle) : List Text → Except Failure.Fault Bundle
  | [] => .ok bundle
  | option :: options =>
      match entryOf option with
      | .ok (key, value) => addOptions (Entries.insert bundle key value) options
      | .error fault => .error fault

def load (files : Files) (options : List Text) (file : Option Path) :
    Except Failure.Fault Bundle := do
  let bundle ← match file with
    | some path => ofFile files path
    | none => pure []
  addOptions bundle options

end Bundle

end ShareProvisioner
