import ShareProvisioner.Agent.Process
import ShareProvisioner.Agent.Record
import ShareProvisioner.Proofs.Failure.Result
import ShareProvisioner.Proofs.Text.Plain

/-!
# Invocations of the agent

An invocation spells out the arguments and the environment of a command as they are, and
there is one exactly if all of them are texts that the operating system takes.
-/

namespace ShareProvisioner.Agent

/-- The arguments behind the agent's path for a share and a user that are texts. -/
def words (mode : Mode) (share user : Text) : List Text :=
  match mode with
  | .create => ["-n", share, "-u", user]
  | .destroy => ["-r", "-n", share, "-u", user]

def Invocation.Creates (invocation : Invocation) (share user : Text) : Prop :=
  ∃ path, invocation.arguments = path :: words .create share user

def Invocation.Destroys (invocation : Invocation) (share user : Text) : Prop :=
  ∃ path, invocation.arguments = path :: words .destroy share user

def Outcome.Succeeds (outcome : Outcome) : Prop :=
  ∃ standardOutput standardError, outcome = .exited 0 standardOutput standardError

def Outcome.Reports (outcome : Outcome) (record : Record) : Prop :=
  ∃ standardOutput standardError, outcome = .exited 0 standardOutput standardError
    ∧ Record.parse (outputText standardOutput) = .ok record

/-- The record that a run reports, if it reports one. -/
def Outcome.record? : Outcome → Option Record
  | .exited 0 standardOutput _ => (Record.parse (outputText standardOutput)).toOption
  | _ => none

theorem Outcome.record?_eq_some_iff {outcome : Outcome} {record : Record} :
    outcome.record? = some record ↔ outcome.Reports record := by
  constructor
  · intro found
    unfold record? at found
    split at found
    · next standardOutput standardError =>
        cases parsed : Record.parse (outputText standardOutput) with
        | error cause =>
            rw [parsed] at found
            cases found
        | ok other =>
            rw [parsed] at found
            cases found
            exact ⟨_, _, rfl, parsed⟩
    · cases found
  · rintro ⟨standardOutput, standardError, rfl, parsed⟩
    simp [record?, parsed, Except.toOption]

theorem Outcome.Reports.eq {outcome : Outcome} {record other : Record}
    (reports : outcome.Reports record) (others : outcome.Reports other) : record = other :=
  Option.some.inj ((record?_eq_some_iff.mpr reports).symm.trans (record?_eq_some_iff.mpr others))

/-- Just the runs that exited with status zero have an output to be read. -/
theorem Outcome.output_eq_ok_iff {outcome : Outcome} {path share output : Text} {mode : Mode} :
    outcome.output path mode share = .ok output
      ↔ ∃ standardOutput standardError, outcome = .exited 0 standardOutput standardError
          ∧ outputText standardOutput = output := by
  cases outcome with
  | notStarted code reason => simp [Outcome.output]
  | exited status standardOutput standardError =>
      by_cases zero : status = 0 <;> simp [Outcome.output, zero]

theorem Outcome.not_succeeds_of_error {outcome : Outcome} {path share : Text} {mode : Mode}
    {cause : Failure.Cause} (failed : outcome.output path mode share = .error cause) :
    ¬outcome.Succeeds := by
  rintro ⟨standardOutput, standardError, rfl⟩
  cases failed

theorem Outcome.agentFailed_of_error {outcome : Outcome} {path share : Text} {mode : Mode}
    {cause : Failure.Cause} (failed : outcome.output path mode share = .error cause) :
    ∃ failure output, cause = .agentFailed failure output := by
  cases outcome with
  | notStarted code reason =>
      cases failed
      exact ⟨_, _, rfl⟩
  | exited status standardOutput standardError =>
      by_cases zero : status = 0
      · exact nomatch (if_pos zero).symm.trans failed
      · exact ⟨_, _, (Except.error.inj ((if_neg zero).symm.trans failed)).symm⟩

/-! ## Handing over -/

/-- The operating system takes exactly the texts without NUL that can be encoded as names. -/
theorem checkName_eq_ok_iff {name : Text} : Files.checkName name = .ok () ↔ name.IsPassable := by
  have encodable : (∃ octets, Utf8.encodeName name = .ok octets)
      ↔ ∀ codePoint ∈ name, codePoint.standsForOctets = true :=
    Utf8.encodeNameFrom_eq_ok_iff name 0
  unfold Files.checkName
  cases encoded : Utf8.encodeName name with
  | error fault =>
      refine iff_of_false nofun fun passable => ?_
      obtain ⟨octets, succeeded⟩ := encodable.mpr fun codePoint member => (passable codePoint member).2
      exact nomatch encoded.symm.trans succeeded
  | ok octets =>
      have stands := encodable.mp ⟨octets, encoded⟩
      dsimp only
      by_cases nul : CodePoint.char '\x00' ∈ name
      · rw [if_pos (List.contains_iff_mem.mpr nul)]
        exact iff_of_false nofun fun passable => absurd rfl (passable _ nul).1
      · rw [if_neg (mt List.contains_iff_mem.mp nul)]
        refine iff_of_true rfl fun codePoint member => ⟨?_, stands codePoint member⟩
        exact fun isNul => nul (isNul ▸ member)

/-- A process takes exactly the texts that the operating system takes, as they are. -/
theorem processText_eq_ok_iff (value : Json) (text : Text) :
    processText value = .ok text ↔ value = .text text ∧ text.IsPassable := by
  cases value with
  | text given =>
      rw [processText, Result.bind_eq_ok_iff, Json.text.injEq, ← checkName_eq_ok_iff]
      constructor
      · rintro ⟨_, taken, same⟩
        cases same
        exact ⟨rfl, taken⟩
      · rintro ⟨rfl, taken⟩
        exact ⟨(), taken, rfl⟩
  | _ => simp [processText]

def Invocation.environmentValues (invocation : Invocation) : List (Text × Json) :=
  invocation.environment.map fun (name, value) => (name, .text value)

theorem Invocation.environment_eq_of_values {left right : Invocation}
    (same : left.environmentValues = right.environmentValues) :
    left.environment = right.environment := by
  refine (List.map_inj_right fun one other equal => ?_).mp same
  simpa [Prod.ext_iff] using equal

/-- There is an invocation exactly if all values are texts that a process takes, and it hands over just
these. -/
theorem invocation_eq_ok_iff {path : Text} {mode : Mode} {share user : Json}
    {connection : Connection} {invocation : Invocation} :
    Agent.invocation path mode share user connection = .ok invocation
      ↔ (.text path :: arguments mode share user = invocation.arguments.map .text
          ∧ ∀ argument ∈ invocation.arguments, argument.IsPassable)
        ∧ connection.environment = invocation.environmentValues
        ∧ ∀ entry ∈ invocation.environment, entry.2.IsPassable := by
  have entryExact (entry : Text × Json) (result : Text × Text) :
      (do return (entry.1, ← processText entry.2) : Except Failure.Fault (Text × Text)) = .ok result
        ↔ entry = (result.1, .text result.2) ∧ result.2.IsPassable := by
    simp only [Result.bind_eq_ok_iff, processText_eq_ok_iff]
    constructor
    · rintro ⟨text, ⟨isText, passable⟩, equal⟩
      cases equal
      exact ⟨Prod.ext rfl isText, passable⟩
    · rintro ⟨rfl, passable⟩
      exact ⟨result.2, ⟨rfl, passable⟩, rfl⟩
  unfold Agent.invocation
  simp only [Result.bind_eq_ok_iff, Result.mapM_eq_ok_iff processText_eq_ok_iff,
    Result.mapM_eq_ok_iff entryExact]
  constructor
  · rintro ⟨arguments, argumentsHanded, environment, environmentHanded, equal⟩
    cases equal
    exact ⟨argumentsHanded, environmentHanded⟩
  · rintro ⟨argumentsHanded, environmentHanded⟩
    exact ⟨_, argumentsHanded, _, environmentHanded, rfl⟩

theorem arguments_text (mode : Mode) (share user : Text) :
    arguments mode (.text share) (.text user) = (words mode share user).map .text := by
  cases mode <;> rfl

theorem arguments_of_invocation {path : Text} {mode : Mode} {share user : Text}
    {connection : Connection} {invocation : Invocation}
    (invoked : Agent.invocation path mode (.text share) (.text user) connection
      = .ok invocation) :
    invocation.arguments = path :: words mode share user := by
  have arguments := (invocation_eq_ok_iff.mp invoked).1.1
  rw [arguments_text, ← List.map_cons] at arguments
  exact ((List.map_inj_right fun _ _ => Json.text.inj).mp arguments).symm

/-- Texts that a process takes can be handed over. -/
theorem exists_invocation {path share user cluster adminId : Text} {connection : Connection}
    (mode : Mode) (isCluster : connection.cluster = .text cluster)
    (isAdmin : connection.adminId = .text adminId)
    (words : ∀ word ∈ path :: words mode share user, word.IsPassable)
    (settings : ∀ setting ∈ [cluster, Text.join "," connection.monitors, adminId,
      connection.adminKey], setting.IsPassable) :
    ∃ invocation, Agent.invocation path mode (.text share) (.text user) connection
      = .ok invocation := by
  refine ⟨⟨path :: Agent.words mode share user, [("CLUSTER_NAME", cluster),
    ("MONITORS", Text.join "," connection.monitors), ("AUTH_ID", adminId),
    ("AUTH_KEY", connection.adminKey)]⟩, invocation_eq_ok_iff.mpr ⟨⟨?_, words⟩, ?_, ?_⟩⟩
  · rw [arguments_text, List.map_cons]
  · rw [Connection.environment, isCluster, isAdmin]
    rfl
  · simpa using settings

/-- Nothing else can be handed over. -/
theorem exists_invocation_iff {path share user : Text} {mode : Mode} {connection : Connection} :
    (∃ invocation, Agent.invocation path mode (.text share) (.text user) connection
        = .ok invocation)
      ↔ (∀ word ∈ path :: words mode share user, word.IsPassable)
        ∧ ∀ entry ∈ connection.environment, ∃ text, entry.2 = .text text ∧ text.IsPassable := by
  constructor
  · rintro ⟨invocation, invoked⟩
    rcases invocation_eq_ok_iff.mp invoked with ⟨⟨_, wordsPassable⟩, environment, settingsPassable⟩
    rw [arguments_of_invocation invoked] at wordsPassable
    refine ⟨wordsPassable, ?_⟩
    rw [environment]
    intro entry member
    rcases List.mem_map.mp member with ⟨setting, isSetting, rfl⟩
    exact ⟨setting.2, rfl, settingsPassable setting isSetting⟩
  · rintro ⟨wordsPassable, settingsPassable⟩
    simp only [Connection.environment, List.forall_mem_cons, Json.text.injEq] at settingsPassable
    rcases settingsPassable with ⟨⟨cluster, isCluster, clusterPassable⟩, ⟨_, rfl, monitorsPassable⟩,
      ⟨adminId, isAdmin, adminPassable⟩, ⟨_, rfl, keyPassable⟩, _⟩
    exact exists_invocation mode isCluster isAdmin wordsPassable (by
      simp [clusterPassable, monitorsPassable, adminPassable, keyPassable])

theorem texts_of_destruction {path : Text} {share user : Json} {connection : Connection}
    {invocation : Agent.Invocation}
    (invoked : Agent.invocation path .destroy share user connection = .ok invocation) :
    ∃ shareText userText, share = .text shareText ∧ user = .text userText
      ∧ invocation.arguments = path :: words .destroy shareText userText := by
  have handed := (invocation_eq_ok_iff.mp invoked).1.1
  have texts (value : Json) (member : value ∈ .text path :: arguments .destroy share user) :
      ∃ text, value = .text text := by
    rw [handed] at member
    rcases List.mem_map.mp member with ⟨text, _, rfl⟩
    exact ⟨text, rfl⟩
  rcases texts share (by simp [arguments]) with ⟨shareText, rfl⟩
  rcases texts user (by simp [arguments]) with ⟨userText, rfl⟩
  exact ⟨shareText, userText, rfl, rfl, arguments_of_invocation invoked⟩

namespace Invocation

variable {invocation : Agent.Invocation} {share user otherShare otherUser : Text}

theorem Creates.not_destroys (creates : invocation.Creates share user) :
    ¬invocation.Destroys otherShare otherUser := by
  rcases creates with ⟨path, created⟩
  rintro ⟨otherPath, destroyed⟩
  simpa [words] using created.symm.trans destroyed

theorem Creates.target_eq (creates : invocation.Creates share user)
    (other : invocation.Creates otherShare otherUser) : share = otherShare ∧ user = otherUser := by
  rcases creates with ⟨path, created⟩
  rcases other with ⟨otherPath, otherCreated⟩
  have same := created.symm.trans otherCreated
  simp only [words, List.cons.injEq] at same
  exact ⟨same.2.2.1, same.2.2.2.2.1⟩

theorem Destroys.target_eq (destroys : invocation.Destroys share user)
    (other : invocation.Destroys otherShare otherUser) :
    share = otherShare ∧ user = otherUser := by
  rcases destroys with ⟨path, destroyed⟩
  rcases other with ⟨otherPath, otherDestroyed⟩
  have same := destroyed.symm.trans otherDestroyed
  simp only [words, List.cons.injEq] at same
  exact ⟨same.2.2.2.1, same.2.2.2.2.2.1⟩

end Invocation

end ShareProvisioner.Agent
