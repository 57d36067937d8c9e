import ShareProvisioner.Service.Body

/-!
# Answers of the service

An answer has a status and a JSON body, which is sent in UTF-8 and in which every number
is finite; where the intended body cannot be sent so, the answer is that of an internal
error.
-/

namespace ShareProvisioner

namespace Json

mutual

/-- Whether the value can be sent: no lone surrogate and no number without a value. -/
def isSendable : Json → Bool
  | null | bool _ | integer _ => true
  | float (.finite _ _ _) => true
  | float _ => false
  | text value => value.isScalar
  | array items => areSendable items
  | object members => haveSendable members

def areSendable : List Json → Bool
  | [] => true
  | item :: items => isSendable item && areSendable items

def haveSendable : List (Text × Json) → Bool
  | [] => true
  | (name, value) :: members => name.isScalar && isSendable value && haveSendable members

end

end Json

namespace Service

structure Answer where
  status : Nat
  body : Json
deriving DecidableEq

namespace Answer

def errorBody (code message : Text) (retryable : Bool) (details : List (Text × Json)) : Json :=
  .object [
    ("status", .text "error"),
    ("error", .object [
      ("code", .text code),
      ("message", .text message),
      ("retryable", .bool retryable),
      ("details", .object details)])]

/-- The answer to whatever was not foreseen.  It says nothing about the reason. -/
def internalError : Answer where
  status := 500
  body := errorBody "INTERNAL_ERROR" "Internal server error" true []

def ofCause (cause : Failure.Cause) : Answer where
  status := cause.kind.answer.1
  body := errorBody cause.kind.answer.2 cause.message cause.kind.isRetryable
    [("type", .text cause.kind.name)]

def ofFailure : Failure → Answer
  | .declared cause => ofCause cause
  | .unexpected _ => internalError

/-- The answer to a body that is complained about.  It shows the offending values, so
they have to be sendable as well. -/
def ofComplaints (complaints : List Complaint) : Answer :=
  if complaints.all fun complaint => complaint.input.isSendable then
    { status := 422, body := .array (complaints.map Complaint.toJson) }
  else internalError

def remark (status : Nat) (text : Text) : Answer where
  status := status
  body := .object [("detail", .text text)]

/-- The answer that sends the client to another path.  It has no body. -/
def redirection : Answer where
  status := 307
  body := .null

def result (status : Nat) (word : Text) (data : List (Text × Json)) : Answer where
  status := status
  body := .object [("status", .text word), ("data", .object data)]

def provisioned (volume : Volume) : Answer :=
  result 201 "ok" [("volume", volume.toJson), ("manifest", volume.manifest)]

def ofDeletion : Deletion → Answer
  | .deleted => result 200 "ok" [("deleted", .bool true)]
  | .ignored reason => result 200 "ignored" [("deleted", .bool false), ("reason", .text reason)]

def identity (provisioner : Provisioner) : Answer :=
  result 200 "ok"
    [("provisioner", .text provisioner.name), ("identity", .text provisioner.identity)]

def sent (answer : Answer) : Answer :=
  if answer.body.isSendable then answer else internalError

end Answer

end Service

end ShareProvisioner
