import ShareProvisioner.Json.Encoding
import ShareProvisioner.Provisioner
import ShareProvisioner.Service.Name

/-!
# Bodies of service requests

A body is a JSON object whose known members must have the right kind, length and form.
All complaints are collected, in the order of the members of a claim; members that are
not known are passed over.
-/

namespace ShareProvisioner.Service

inductive Objection where
  | malformed
  | missing
  | notObject
  | notText
  | loneSurrogate
  | notMapping
  | tooShort
  | tooLong (limit : Nat)
  | badValue (rule : Text)
deriving DecidableEq, Repr

/-- An objection with the place it is raised at and the value found there. -/
structure Complaint where
  place : List Json
  objection : Objection
  input : Json
deriving DecidableEq

def Objection.typeName : Objection → Text
  | .malformed => "json_invalid"
  | .missing => "missing"
  | .notObject => "model_attributes_type"
  | .notText => "string_type"
  | .loneSurrogate => "string_unicode"
  | .notMapping => "dict_type"
  | .tooShort => "string_too_short"
  | .tooLong _ => "string_too_long"
  | .badValue _ => "value_error"

def Objection.message : Objection → Text
  | .malformed => "JSON decode error"
  | .missing => "Field required"
  | .notObject => "Input should be a valid dictionary or object to extract fields from"
  | .notText => "Input should be a valid string"
  | .loneSurrogate =>
      "Input should be a valid string, unable to parse raw data as a unicode string"
  | .notMapping => "Input should be a valid dictionary"
  | .tooShort => "String should have at least 1 character"
  | .tooLong limit => "String should have at most " ++ Text.ofNat limit ++ " characters"
  | .badValue rule => "Value error, " ++ rule

def Complaint.toJson (complaint : Complaint) : Json :=
  .object [
    ("type", .text complaint.objection.typeName),
    ("loc", .array complaint.place),
    ("msg", .text complaint.objection.message)]

/-! ## Members -/

/-- The outcome of checking one part: its value, or the complaints about it. -/
abbrev Checked (α : Type) := Except (List Complaint) α

def memberPlace (name : Text) : List Json := [.text "body", .text name]

def complain {α : Type} (name : Text) (objection : Objection) (input : Json) : Checked α :=
  .error [⟨memberPlace name, objection, input⟩]

def checkText (name : Text) : Json → Checked Text
  | .text value => .ok value
  | input => complain name .notText input

/-- The text of a member that holds characters only, at least one of them, at most
`limit` if there is a limit, and of a form that satisfies `rule`. -/
def checkForm (name : Text) (limit : Option Nat) (rule : Text) (isValid : Text → Bool)
    (input : Json) : Checked Text := do
  let value ← checkText name input
  if !value.isScalar then complain name .loneSurrogate input
  else if value.isEmpty then complain name .tooShort input
  else match limit.filter (· < value.length) with
    | some limit => complain name (.tooLong limit) input
    | none => if isValid value then return value else complain name (.badValue rule) input

def required {α : Type} (members : List (Text × Json)) (name : Text)
    (check : Json → Checked α) : Checked α :=
  match Entries.find? members name with
  | some value => check value
  | none => complain name .missing (.object members)

def optional {α : Type} (members : List (Text × Json)) (name : Text) (default : α)
    (check : Json → Checked α) : Checked α :=
  match Entries.find? members name with
  | some value => check value
  | none => .ok default

def orNull {α : Type} (check : Json → Checked α) : Json → Checked (Option α)
  | .null => .ok none
  | value => (check value).map some

/-- The entries of a mapping of texts; each value that is none is complained about. -/
def checkTextEntries : List (Text × Json) → Checked (List (Text × Text))
  | [] => .ok []
  | (name, value) :: rest =>
      match value, checkTextEntries rest with
      | .text value, .ok entries => .ok ((name, value) :: entries)
      | .text _, .error complaints => .error complaints
      | value, rest =>
          let complaint : Complaint :=
            ⟨memberPlace "parameters" ++ [.text name], .notText, value⟩
          match rest with
          | .ok _ => .error [complaint]
          | .error complaints => .error (complaint :: complaints)

def checkTextMapping : Json → Checked (List (Text × Text))
  | .object entries => checkTextEntries entries
  | input => complain "parameters" .notMapping input

def checkObject (name : Text) : Json → Checked (List (Text × Json))
  | .object members => .ok members
  | input => complain name .notMapping input

/-- Adds the outcome of one more check, keeping the complaints of both. -/
def andCheck {α β : Type} (checked : Checked (α → β)) (next : Checked α) : Checked β :=
  match checked, next with
  | .ok build, .ok value => .ok (build value)
  | .ok _, .error complaints => .error complaints
  | .error complaints, .ok _ => .error complaints
  | .error complaints, .error more => .error (complaints ++ more)

/-! ## Claims -/

def reclaimPolicies : List Text :=
  ["Delete", "Retain", "Recycle"].map Text.ofString

def checkVolumeName : Json → Checked Text :=
  checkForm "pv_name" (some 253) "pv_name must be a lowercase RFC 1123 subdomain"
    (isSubdomain ∘ Text.withoutLineEnd)

def checkNamespace : Json → Checked Text :=
  checkForm "namespace" (some 63) "namespace must be a lowercase RFC 1123 label"
    (isLabel ∘ Text.withoutLineEnd)

def checkCapacity : Json → Checked Text :=
  checkForm "capacity" none "" fun _ => true

def checkReclaimPolicy (input : Json) : Checked Text := do
  let value ← checkText "reclaim_policy" input
  if reclaimPolicies.contains value then return value
  else
    let rule : Text := "reclaim_policy must be one of Delete, Retain, Recycle"
    complain "reclaim_policy" (.badValue rule) input

def claimOf (members : List (Text × Json)) : Checked Claim :=
  let build (volumeName namespaceName capacity : Text) (parameters : List (Text × Text))
      (selector : Option (List (Text × Json))) (reclaimPolicy : Text)
      (storageClass _claimName : Option Text) : Claim :=
    { volumeName, namespaceName, capacity, parameters, reclaimPolicy, storageClass
      selector := selector.map .object }
  andCheck (andCheck (andCheck (andCheck (andCheck (andCheck (andCheck (andCheck (.ok build)
    (required members "pv_name" checkVolumeName))
    (required members "namespace" checkNamespace))
    (required members "capacity" checkCapacity))
    (optional members "parameters" [] checkTextMapping))
    (optional members "selector" none (orNull (checkObject "selector"))))
    (optional members "reclaim_policy" "Delete" checkReclaimPolicy))
    (optional members "storage_class" none (orNull (checkText "storage_class"))))
    (optional members "pvc_name" none (orNull (checkText "pvc_name")))

def manifestOf (members : List (Text × Json)) : Checked (List (Text × Json)) :=
  required members "manifest" (checkObject "manifest")

/-! ## Whole bodies -/

inductive Body where
  | members (members : List (Text × Json))
  | complaints (complaints : List Complaint)
  | unreadable
deriving DecidableEq

/-- Reads a body.  An empty one and one that holds null are missing. -/
def readBody (octets : Octets) : Body :=
  if octets.isEmpty then .complaints [⟨[.text "body"], .missing, .null⟩]
  else match Json.decode? octets with
    | none => .unreadable
    | some document =>
        match Json.readUnmarked document with
        | .error (.longNumeral _) => .unreadable
        | .error (.malformed _ _ _ position) =>
            .complaints [⟨[.text "body", .integer position], .malformed, .object []⟩]
        | .ok (.object members) => .members members
        | .ok .null => .complaints [⟨[.text "body"], .missing, .null⟩]
        | .ok input => .complaints [⟨[.text "body"], .notObject, input⟩]

end ShareProvisioner.Service
