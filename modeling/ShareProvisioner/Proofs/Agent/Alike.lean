import Mathlib.Data.List.Forall2
import ShareProvisioner.Proofs.Agent.Invocation
import ShareProvisioner.Proofs.Json.Content
import ShareProvisioner.Proofs.Secret

/-!
# Runs of the agent that look alike

Two runs look alike if they end the same way and, where a record is to be read, print the
same apart from the key of the new user.  What they are told may differ in the
administrator's key.
-/

namespace ShareProvisioner

namespace Agent

/-! ## What the agent is told -/

def keyVariable : Text := "AUTH_KEY"

/-- Whether two invocations are the same up to the administrator's key. -/
structure Invocation.Alike (invocation other : Invocation) : Prop where
  arguments : invocation.arguments = other.arguments
  environment : List.Forall₂
    (fun entry other => entry.1 = other.1 ∧ (entry.1 ≠ keyVariable → entry.2 = other.2))
    invocation.environment other.environment

theorem Invocation.Alike.refl (invocation : Invocation) : invocation.Alike invocation :=
  ⟨rfl, List.forall₂_same.mpr fun _ _ => ⟨rfl, fun _ => rfl⟩⟩

end Agent

structure Connection.Alike (connection other : Connection) : Prop where
  cluster : connection.cluster = other.cluster
  adminId : connection.adminId = other.adminId
  monitors : connection.monitors = other.monitors
  adminKey : connection.adminKey.KeysAlike other.adminKey

namespace Agent

section Invocations

variable {path : Text} {mode : Mode} {share user : Json} {connection other : Connection}

/-- With either key the agent is told the same otherwise, or neither can be told. -/
theorem invocation_alike (path : Text) (mode : Mode) (share user : Json)
    (alike : connection.Alike other) :
    Result.Alike Failure.Fault.Alike Invocation.Alike
      (Agent.invocation path mode share user connection)
      (Agent.invocation path mode share user other) := by
  rcases connection with ⟨cluster, adminId, key, monitors⟩
  rcases other with ⟨otherCluster, otherAdminId, otherKey, otherMonitors⟩
  rcases alike with ⟨sameCluster, sameAdmin, sameMonitors, keys⟩
  dsimp only at sameCluster sameAdmin sameMonitors keys
  subst sameCluster sameAdmin sameMonitors
  rcases keys with rfl | ⟨isKey, otherIsKey⟩
  · exact .refl _ (fun _ => trivial) .refl
  · have handed := (processText_eq_ok_iff (.text key) key).mpr ⟨rfl, isKey.plain.isPassable⟩
    have otherHanded := (processText_eq_ok_iff (.text otherKey) otherKey).mpr
      ⟨rfl, otherIsKey.plain.isPassable⟩
    unfold Agent.invocation
    -- All values but the last are the same, so they are taken or refused together.
    cases (Json.text path :: arguments mode share user).mapM processText with
    | error fault => exact .error trivial
    | ok words =>
    simp only [Connection.environment, List.mapM_cons, List.mapM_nil]
    cases processText cluster with
    | error fault => exact .error trivial
    | ok clusterText =>
    cases processText (.text (Text.join "," monitors)) with
    | error fault => exact .error trivial
    | ok monitorsText =>
    cases processText adminId with
    | error fault => exact .error trivial
    | ok adminText =>
    rw [handed, otherHanded]
    refine .ok ⟨rfl, .cons ⟨rfl, fun _ => rfl⟩ (.cons ⟨rfl, fun _ => rfl⟩ (.cons ⟨rfl, fun _ => rfl⟩
      (.cons ⟨rfl, ?_⟩ .nil)))⟩
    exact fun different => absurd rfl different

end Invocations

/-! ## What the agent prints -/

/-- Whether two objects are the same up to the key of the new user. -/
structure MembersAlike (members others : List (Text × Json)) : Prop where
  rest : ∀ name, name ≠ Failure.RecordField.auth.name →
    Json.member members name = Json.member others name
  auth : ∃ key : Text, Json.member members Failure.RecordField.auth.name = .text key ∧ key.IsKey
  otherAuth : ∃ key : Text, Json.member others Failure.RecordField.auth.name = .text key ∧ key.IsKey

/-- Whether two texts are the same as records up to the key of the new user. -/
inductive OutputsAlike : Text → Text → Prop
  | same (output : Text) : OutputsAlike output output
  | objects {output other : Text} {members others : List (Text × Json)}
      (read : Json.read output = .ok (.object members))
      (otherRead : Json.read other = .ok (.object others)) (alike : MembersAlike members others) :
      OutputsAlike output other

/-- Whether two runs end the same way, up to what is kept secret and what is not read. -/
inductive Outcome.Alike : Outcome → Outcome → Prop
  | notStarted (code : Int) (reason : Text) :
      Alike (.notStarted code reason) (.notStarted code reason)
  | failed {status : Int} (fails : status ≠ 0) (out err otherOut otherErr : Octets) :
      Alike (.exited status out err) (.exited status otherOut otherErr)
  | succeeded {out otherOut : Octets} (alike : OutputsAlike (outputText out) (outputText otherOut))
      (err otherErr : Octets) : Alike (.exited 0 out err) (.exited 0 otherOut otherErr)

structure Record.Alike (record other : Record) : Prop where
  path : record.path = other.path
  user : record.user = other.user
  key : record.key.KeysAlike other.key

theorem Outcome.Alike.output {outcome other : Outcome} (alike : outcome.Alike other)
    (path share : Text) (mode : Mode) :
    Result.Alike Failure.Cause.Alike OutputsAlike (outcome.output path mode share)
      (other.output path mode share) := by
  cases alike with
  | notStarted code reason => exact .error (.refl _)
  | failed fails out err otherOut otherErr =>
      unfold Outcome.output
      dsimp only
      rw [if_neg fails, if_neg fails]
      exact .error ⟨rfl, rfl⟩
  | succeeded alike err otherErr => exact .ok alike

theorem MembersAlike.missing_eq {members others : List (Text × Json)}
    (alike : MembersAlike members others) : Record.missing members = Record.missing others := by
  have truthy (field : Failure.RecordField) :
      (Json.member members field.name).isTruthy = (Json.member others field.name).isTruthy := by
    cases field with
    | path => rw [alike.rest _ (by decide)]
    | user => rw [alike.rest _ (by decide)]
    | auth =>
        rcases alike.auth with ⟨key, isAuth, isKey⟩
        rcases alike.otherAuth with ⟨otherKey, otherIsAuth, otherIsKey⟩
        rw [isAuth, otherIsAuth, Json.isTruthy_text, Json.isTruthy_text,
          List.isEmpty_eq_false_iff.mpr isKey.nonempty,
          List.isEmpty_eq_false_iff.mpr otherIsKey.nonempty]
  unfold Record.missing
  refine List.filter_congr fun field _ => ?_
  rw [truthy field]

theorem OutputsAlike.parse {output other : Text} (alike : OutputsAlike output other) :
    Result.Alike Failure.Cause.Alike Record.Alike (Record.parse output) (Record.parse other) := by
  cases alike with
  | same => exact .refl _ .refl fun record => ⟨rfl, rfl, .inl rfl⟩
  | objects read otherRead alike =>
      unfold Record.parse
      rw [read, otherRead]
      dsimp only
      rw [alike.missing_eq]
      split
      · rcases alike.auth with ⟨key, isAuth, isKey⟩
        rcases alike.otherAuth with ⟨otherKey, otherIsAuth, otherIsKey⟩
        refine .ok ⟨?_, ?_, ?_⟩
        · dsimp only
          rw [alike.rest _ (by decide)]
        · dsimp only
          rw [alike.rest _ (by decide)]
        · dsimp only
          rw [isAuth, otherIsAuth]
          exact .inr ⟨isKey, otherIsKey⟩
      · exact .error ⟨rfl, rfl⟩

end Agent

end ShareProvisioner
