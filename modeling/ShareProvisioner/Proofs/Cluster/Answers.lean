import ShareProvisioner.Proofs.Cluster.Secret
import ShareProvisioner.Proofs.Failure.Notice

/-!
# What an answer decides

Each question to an API server is one request, and what becomes of the request falls under
exactly one rule of `Classified`.  Only an answer with an object and a status below 400 is
looked into; everything else is a refusal whose kind and message the rule gives.
-/

namespace ShareProvisioner.Cluster.Client

/-! ## Questions -/

/-- What an API server is asked for. -/
inductive Question where
  | secret (reference : SecretReference)
  | storageClass (name : Json)
  | creation (reference : SecretReference) (type : Json) (entries : List (Text × Octets))

namespace Question

def Result : Question → Type
  | secret _ => SecretData
  | storageClass _ => StorageClass
  | creation _ _ _ => Unit

def ask (client : Client) : (question : Question) → Action question.Result
  | secret reference => client.readSecret reference
  | storageClass name => client.readClass name
  | creation reference type entries => client.createSecret reference type (.ofOctets entries)

def path : Question → Text
  | secret reference => secretPath reference
  | storageClass name => classPath name
  | creation reference _ _ => secretsPath reference

def request (client : Client) : Question → Http.Request
  | secret reference => client.request .get (secretPath reference) none
  | storageClass name => client.request .get (classPath name) none
  | creation reference type entries => client.posting reference type entries

/-- The status that says of the object itself that it is not there, or that it is there
already. -/
def ownStatus : Question → Nat
  | secret _ | storageClass _ => 404
  | creation _ _ _ => 409

def ownCause : Question → Failure.Cause
  | secret reference => .secretNotFound reference
  | storageClass name => .classNotFound name
  | creation reference _ _ => .secretExists reference

def ownNotice : Question → Failure.Notice
  | secret reference => .plain .secretNotFound ("Secret " ++ reference.namespaceName.display ++ "/"
      ++ reference.name.display ++ " not found")
  | storageClass name => .plain .classNotFound ("StorageClass " ++ name.display ++ " not found")
  | creation reference _ _ => .plain .secretAlreadyExists ("Secret "
      ++ reference.namespaceName.display ++ "/" ++ reference.name.display ++ " already exists")

/-- What the members of an answer come to. -/
def decision : (question : Question) → List (Text × Json) → Except Failure question.Result
  | secret _, members => (secretData members).mapError .unexpected
  | storageClass name, members => (Client.storageClass name members).mapError .unexpected
  | creation _ _ _, _ => .ok ()

end Question

/-! ## Verdicts -/

inductive Verdict where
  | refused (notice : Failure.Notice)
  | decided (members : List (Text × Json))
deriving DecidableEq

/-- Whether this is what the body of a failed request says: the message of a status object,
or else all of it. -/
inductive Complains (body : Text) : Text → Prop
  | message {members : List (Text × Json)} (isObject : Json.read body = .ok (.object members))
      (truthy : (Json.member members "message").isTruthy = true) :
      Complains body (Json.member members "message").display
  | whole (silent : ∀ members, Json.read body = .ok (.object members) →
        (Json.member members "message").isTruthy = false) :
      Complains body body

/-- Which verdict the outcome of a request is. -/
inductive Classified (client : Client) (question : Question) : Http.Outcome → Verdict → Prop
  | late {problem details} (isLate : problem.isTimeout = true) :
      Classified client question (.failed problem details) (.refused (.plain .apiTimeout
        ("Kubernetes API request timed out after " ++ client.timeout.display ++ " seconds")))
  | unconnected {problem details} (inTime : problem.isTimeout = false)
      (isConnection : problem.isConnection = true) :
      Classified client question (.failed problem details) (.refused (.plain .apiUnreachable
        ("Failed to connect to Kubernetes API: " ++ details)))
  | untransported {problem details} (inTime : problem.isTimeout = false)
      (connected : problem.isConnection = false) :
      Classified client question (.failed problem details) (.refused (.plain .apiFailed
        ("Kubernetes API error: " ++ details)))
  | own (octets) :
      Classified client question (.answered question.ownStatus octets)
        (.refused question.ownNotice)
  | failed {status octets complaint} (other : status ≠ question.ownStatus) (fails : 400 ≤ status)
      (complains : Complains (Utf8.decodeReplacing octets) complaint) :
      Classified client question (.answered status octets) (.refused (.plain .apiFailed
        ("Kubernetes API error: " ++ ("HTTP " ++ Text.ofNat status ++ ": " ++ complaint))))
  | unread {status octets fault} (succeeds : status < 400)
      (isUnread : Json.read (Utf8.decodeReplacing octets) = .error fault) :
      Classified client question (.answered status octets) (.refused (.plain .apiFailed
        ("Kubernetes API error: " ++ ("invalid JSON response from " ++ question.path))))
  | misshapen {status octets value} (succeeds : status < 400)
      (isRead : Json.read (Utf8.decodeReplacing octets) = .ok value)
      (isNoObject : ∀ members, value ≠ .object members) :
      Classified client question (.answered status octets) (.refused (.plain .apiFailed
        ("Kubernetes API error: "
          ++ ("unexpected response from " ++ question.path ++ ": expected a JSON object"))))
  | object {status octets members} (succeeds : status < 400)
      (isObject : Json.read (Utf8.decodeReplacing octets) = .ok (.object members)) :
      Classified client question (.answered status octets) (.decided members)

/-- Whether a question ends as a verdict says. -/
def Question.EndsBy (question : Question) (result : Except Failure question.Result) :
    Verdict → Prop
  | .refused notice => notice.Ends result
  | .decided members => result = question.decision members

/-! ## One verdict for each outcome -/

theorem complains_iff {body complaint : Text} :
    Complains body complaint ↔ complaint = errorMessage body := by
  unfold errorMessage
  constructor
  · intro complains
    cases complains with
    | message isObject truthy =>
        rw [isObject]
        dsimp only
        rw [if_pos truthy]
    | whole silent =>
        split
        · next members isObject => rw [if_neg (by simp [silent members isObject])]
        · rfl
  · rintro rfl
    split
    · next members isObject =>
        dsimp only
        split
        · next truthy => exact .message isObject truthy
        · next silent =>
            refine .whole fun others isOther => ?_
            cases isObject.symm.trans isOther
            exact Bool.eq_false_iff.mpr silent
    · next isNoObject => exact .whole fun members isObject => absurd isObject (isNoObject members)

/-- The verdict that the server's members, or the cause of their absence, amount to. -/
def Verdict.ofMembers : Except Failure.Cause (List (Text × Json)) → Verdict
  | .ok members => .decided members
  | .error cause => .refused (.ofCause cause)

namespace Question

variable (question : Question)

/-- The cause that goes with a status of a question's own. -/
def special (status : Nat) : Option Failure.Cause :=
  if status = question.ownStatus then some question.ownCause else none

theorem fails_of_ownStatus : 400 ≤ question.ownStatus := by
  cases question with
  | secret _ | storageClass _ | creation _ _ _ => simp [ownStatus]

theorem ofCause_ownCause : Failure.Notice.ofCause question.ownCause = question.ownNotice := by
  cases question with
  | secret _ | storageClass _ | creation _ _ _ =>
      simp only [ownNotice, List.append_assoc]
      rfl

theorem special_ownStatus : question.special question.ownStatus = some question.ownCause :=
  if_pos rfl

theorem special_eq_none {status : Nat} (other : status ≠ question.ownStatus) :
    question.special status = none :=
  if_neg other

end Question

section Verdicts

variable {client : Client} {question : Question} {outcome : Http.Outcome} {verdict : Verdict}

/-- The rules say what an outcome is taken for. -/
theorem Classified.eq_ofMembers (classified : Classified client question outcome verdict) :
    verdict = .ofMembers (client.membersOf question.path question.special outcome) := by
  have ownFails := question.fails_of_ownStatus
  cases classified with
  | late isLate =>
      rw [membersOf, if_pos isLate, Verdict.ofMembers, Failure.Notice.ofCause_apiTimeout]
  | unconnected inTime isConnection =>
      rw [membersOf, if_neg (by simp [inTime]), if_pos isConnection, Verdict.ofMembers,
        Failure.Notice.ofCause_apiUnreachable]
  | untransported inTime connected =>
      rw [membersOf, if_neg (by simp [inTime]), if_neg (by simp [connected]), Verdict.ofMembers,
        Failure.Notice.ofCause_apiFailed]
      rfl
  | own octets =>
      rw [membersOf, question.special_ownStatus]
      dsimp only
      rw [Verdict.ofMembers, question.ofCause_ownCause]
  | failed other fails complains =>
      rw [membersOf, question.special_eq_none other, complains_iff.mp complains]
      dsimp only
      rw [if_pos fails, Verdict.ofMembers, Failure.Notice.ofCause_apiFailed]
      rfl
  | unread succeeds isUnread =>
      rw [membersOf, question.special_eq_none (by omega)]
      dsimp only
      rw [if_neg (by omega), isUnread, Verdict.ofMembers, Failure.Notice.ofCause_apiFailed]
      rfl
  | @misshapen status octets value succeeds isRead isNoObject =>
      have refused : client.membersOf question.path question.special (.answered status octets)
          = .error (.apiFailed (.notObject question.path)) := by
        rw [membersOf, question.special_eq_none (by omega)]
        dsimp only
        rw [if_neg (by omega), isRead]
        cases value with
        | object members => exact absurd rfl (isNoObject members)
        | _ => rfl
      rw [refused, Verdict.ofMembers, Failure.Notice.ofCause_apiFailed]
      rfl
  | object succeeds isObject =>
      rw [membersOf_of_returned (question.special_eq_none (by omega)) succeeds isObject]
      rfl

theorem exists_classified (client : Client) (question : Question) (outcome : Http.Outcome) :
    ∃ verdict, Classified client question outcome verdict := by
  cases outcome with
  | failed problem details =>
      cases inTime : problem.isTimeout with
      | true => exact ⟨_, .late inTime⟩
      | false =>
          cases connected : problem.isConnection with
          | true => exact ⟨_, .unconnected inTime connected⟩
          | false => exact ⟨_, .untransported inTime connected⟩
  | answered status octets =>
      by_cases own : status = question.ownStatus
      · rw [own]
        exact ⟨_, .own octets⟩
      by_cases fails : 400 ≤ status
      · exact ⟨_, .failed own fails (complains_iff.mpr rfl)⟩
      have succeeds : status < 400 := by omega
      cases isRead : Json.read (Utf8.decodeReplacing octets) with
      | error fault => exact ⟨_, .unread succeeds isRead⟩
      | ok value =>
          cases value with
          | object members => exact ⟨_, .object succeeds isRead⟩
          | _ => exact ⟨_, .misshapen succeeds isRead nofun⟩

/-- Every outcome falls under exactly one rule. -/
theorem classified_iff : Classified client question outcome verdict
    ↔ verdict = .ofMembers (client.membersOf question.path question.special outcome) := by
  constructor
  · exact Classified.eq_ofMembers
  · intro same
    rcases exists_classified client question outcome with ⟨other, classified⟩
    rw [same, ← classified.eq_ofMembers]
    exact classified

end Verdicts

/-! ## Asking -/

/-- An exchange whose members are then decided without another call. -/
theorem runIn_exchange_bind {α : Type} {client : Client} {world : World} {method : Http.Method}
    {path : Text} {body : Option Json} {special : Nat → Option Failure.Cause}
    {next : List (Text × Json) → Action α} {decision : List (Text × Json) → Except Failure α}
    (decides : ∀ members world, Action.runIn world (next members) = (decision members, world)) :
    Action.runIn world (client.exchange method path body special >>= next)
      = ((client.membersOf path special world.nextResponse).mapError .declared >>= decision,
        (Store.cluster client).asked world (.http (client.request method path body))) := by
  rw [Action.runIn_bind, Store.runIn_exchange]
  cases client.membersOf path special world.nextResponse with
  | error cause => rfl
  | ok members => exact decides members _

/-- A question is one exchange, and the members of the answer decide it. -/
theorem runIn_ask (client : Client) (question : Question) (world : World) :
    Action.runIn world (question.ask client)
      = ((client.membersOf question.path question.special world.nextResponse).mapError .declared
          >>= question.decision,
        (Store.cluster client).asked world (.http (question.request client))) := by
  cases question with
  | secret reference => exact runIn_exchange_bind fun _ _ => Action.runIn_guarded _
  | storageClass name => exact runIn_exchange_bind fun _ _ => Action.runIn_guarded _
  | creation reference type entries =>
      change Action.runIn world (client.createSecret reference type (.ofOctets entries)) = _
      unfold createSecret
      rw [encodeEntries_ofOctets, Action.runIn_bind_ok (Action.runIn_guarded _)]
      exact runIn_exchange_bind fun _ _ => rfl

/-- A question to the API server is one request.  What becomes of the request falls under
exactly one rule, and the question ends by the verdict that this rule gives. -/
theorem answers_classified (client : Client) (question : Question) (world : World) :
    (Action.runIn world (question.ask client)).2
        = (Store.cluster client).asked world (.http (question.request client))
      ∧ ∃ verdict, question.EndsBy (Action.runIn world (question.ask client)).1 verdict
        ∧ ∀ other, Classified client question world.nextResponse other ↔ other = verdict := by
  rw [runIn_ask]
  refine ⟨rfl, _, ?_, fun other => classified_iff⟩
  cases client.membersOf question.path question.special world.nextResponse with
  | error cause => exact Failure.Notice.ends_ofCause cause
  | ok members => rfl

/-- A connection that is not made in time counts as late, and a status object speaks for
itself. -/
example :
    let client : Client := { baseUrl := "https://api", timeout := .integer 5 }
    let answered (status : Nat) (body : String) : Http.Outcome :=
      .answered status (Utf8.ofString body)
    let verdict (outcome : Http.Outcome) :=
      Verdict.ofMembers (client.membersOf "/path" (fun _ => none) outcome)
    verdict (.failed .connectTimeout "slow")
        = .refused (.plain .apiTimeout "Kubernetes API request timed out after 5 seconds")
      ∧ verdict (answered 403 "\x7b\"message\":\"forbidden\"\x7d")
        = .refused (.plain .apiFailed "Kubernetes API error: HTTP 403: forbidden") := by
  decide +kernel

end ShareProvisioner.Cluster.Client
