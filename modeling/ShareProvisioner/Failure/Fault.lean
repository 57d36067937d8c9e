import ShareProvisioner.Failure.Cause
import ShareProvisioner.Text.Base64

/-!
# Failures

Besides the declared failures there are faults that no caller is told to expect:
values of a wrong type, texts that cannot be encoded or decoded, files that cannot be
read.  They end an operation as well, but have no kind.
-/

namespace ShareProvisioner

def Json.typeName : Json → Text
  | .null => "NoneType"
  | .bool _ => "bool"
  | .integer _ => "int"
  | .float _ => "float"
  | .text _ => "str"
  | .array _ => "list"
  | .object _ => "dict"

namespace Failure

inductive FileProblem where
  | absent
  | isDirectory
  | notDirectory
  | nameTooLong
deriving DecidableEq, Repr

def FileProblem.message (path : Text) : FileProblem → Text
  | .absent => "[Errno 2] No such file or directory: " ++ path.quoted
  | .isDirectory => "[Errno 21] Is a directory: " ++ path.quoted
  | .notDirectory => "[Errno 20] Not a directory: " ++ path.quoted
  | .nameTooLong => "[Errno 36] File name too long: " ++ path.quoted

/-- Where the values of a setting come from: from a file, if any file sets it. -/
inductive SettingOrigin where
  | file
  | environment
deriving DecidableEq, Repr

/-- A fault outside the taxonomy. -/
inductive Fault where
  | nulInProcess
  /-- A value for a process is no text. -/
  | notText (value : Json)
  | unencodable (fault : Utf8.Unencodable)
  | undecodable (fault : Utf8.Undecodable)
  | malformedJson (fault : Json.Fault)
  | malformedBase64 (fault : Base64.Fault)
  /-- A value to be read as Base64 is no text. -/
  | notBase64 (value : Json)
  /-- The content of a secret to be written is no sequence of octets. -/
  | notOctets
  | lacks (value : Json) (operation : Text)
  | notIterable (value : Json)
  /-- A list or an object cannot be a key. -/
  | notKey (value : Json)
  /-- An element of a list of pairs has the wrong length. -/
  | notPair (index length : Nat)
  /-- An element of a list of pairs has no elements. -/
  | notSequence (index : Nat)
  | unformatted (fault : Format.Fault)
  | unknownMode (name : Text)
  | noEndpoint
  | noMapping (file : Text)
  | noValue (option : Text)
  | unreadable (path : Text) (problem : FileProblem)
  | noProvisioner
  | badSetting (option value : Text) (origin : SettingOrigin)
  | noSetting (name : Text)
  | noSection (name : Text)
  | wholeSection (name : Text)
  | endlessReference (option : Text)
  | absentSettings (files : List Text)
  /-- An option stands where the name of a file with settings is expected. -/
  | misplacedOption (option : Text)
  | malformedSettings (file : Text) (line : Nat)
deriving DecidableEq

def Fault.message : Fault → Text
  | .nulInProcess => "embedded null byte"
  | .notText value => "expected str, bytes or os.PathLike object, not " ++ value.typeName
  | .unencodable fault => fault.message
  | .undecodable fault => fault.message
  | .malformedJson fault => fault.message
  | .malformedBase64 fault => fault.message
  | .notBase64 value =>
      "argument should be a bytes-like object or ASCII string, not '" ++ value.typeName ++ "'"
  | .notOctets => "a bytes-like object is required, not 'str'"
  | .lacks value operation =>
      "'" ++ value.typeName ++ "' object has no attribute '" ++ operation ++ "'"
  | .notIterable value => "'" ++ value.typeName ++ "' object is not iterable"
  | .notKey value => "unhashable type: '" ++ value.typeName ++ "'"
  | .notPair index length =>
      "dictionary update sequence element #" ++ Text.ofNat index ++ " has length "
        ++ Text.ofNat length ++ "; 2 is required"
  | .notSequence index =>
      "cannot convert dictionary update sequence element #" ++ Text.ofNat index ++ " to a sequence"
  | .unformatted fault => fault.message
  | .unknownMode name => "Invalid agent mode: " ++ name
  | .noEndpoint => "kube_api_endpoint must be set when not running inside a Kubernetes cluster"
  | .noMapping file => file ++ " does not contain a parameter mapping"
  | .noValue option => "Invalid parameter " ++ option.quoted ++ ", expected KEY=VALUE"
  | .unreadable path problem => problem.message path
  | .noProvisioner => "Provisioner is not configured"
  | .badSetting option value .file =>
      "Value for option " ++ option ++ " in a file is not valid: " ++ value
  | .badSetting option value .environment =>
      "Value for option " ++ option ++ " in the environment is not valid: " ++ value
  | .noSetting name => "no such option " ++ name
  | .noSection name => "no such group " ++ name
  | .wholeSection name => "group " ++ name ++ " cannot be substituted"
  | .endlessReference option => "Value for option " ++ option ++ " refers to itself"
  | .absentSettings files => "Failed to find some config files: " ++ Text.join "," files
  | .misplacedOption option => "expected one argument instead of " ++ option
  | .malformedSettings file line =>
      "Failed to parse " ++ file ++ ": at " ++ file ++ ":" ++ Text.ofNat line

end Failure

/-- The end of an operation that did not succeed: a declared failure or a fault. -/
inductive Failure where
  | declared (cause : Failure.Cause)
  | unexpected (fault : Failure.Fault)
deriving DecidableEq

def Failure.message : Failure → Text
  | .declared cause => cause.message
  | .unexpected problem => problem.message

end ShareProvisioner
