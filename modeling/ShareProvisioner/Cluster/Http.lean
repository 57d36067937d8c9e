import ShareProvisioner.Json.Value
import ShareProvisioner.Text.Utf8

/-!
# HTTP exchanges

A request and what became of it: an answer with its status and body, or a failure to
get one.
-/

namespace ShareProvisioner.Http

inductive Method where
  | get
  | post
deriving DecidableEq, Repr

def Method.name : Method → Text
  | .get => "GET"
  | .post => "POST"

/-- How the server's certificate is verified: against the system's authorities or not at
all, or against those in a file. -/
inductive Verification where
  | system (enabled : Bool)
  | bundle (path : Text)
deriving DecidableEq, Repr

/-- A request, with the seconds to wait for its answer, which are null where there is no
limit, and its authorization header. -/
structure Request where
  method : Method
  url : Text
  body : Option Json
  timeout : Json
  verification : Verification
  authorization : Option Text
deriving DecidableEq

/-- Why a request has got no answer.  A connection that could not be made in time is a
problem both of time and of connection. -/
inductive TransportProblem where
  | timeout
  | connectTimeout
  | readTimeout
  | connection
  | proxy
  | certificate
  | other
deriving DecidableEq, Repr

namespace TransportProblem

def isTimeout : TransportProblem → Bool
  | timeout | connectTimeout | readTimeout => true
  | connection | proxy | certificate | other => false

def isConnection : TransportProblem → Bool
  | connection | connectTimeout | proxy | certificate => true
  | timeout | readTimeout | other => false

end TransportProblem

/-- What became of a request.  The body of an answer stands for its text in UTF-8: to choose the
charset that a server names is the task of the HTTP library. -/
inductive Outcome where
  | answered (status : Nat) (body : Octets)
  | failed (problem : TransportProblem) (details : Text)
deriving DecidableEq, Repr

end ShareProvisioner.Http
