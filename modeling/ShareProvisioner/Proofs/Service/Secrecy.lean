import ShareProvisioner.Proofs.Provisioner.Secrecy
import ShareProvisioner.Proofs.Service.Refinement

/-!
# What the service keeps to itself

Clients of two services in worlds that look alike cannot tell them apart: whatever they
ask, they get the same answers.
-/

namespace ShareProvisioner

theorem World.Alike.quiet {world other : World} (alike : world.Alike other) :
    world.quiet.Alike other.quiet :=
  ⟨alike.memory, alike.runs, alike.nextId, .nil⟩

namespace Service

open ShareProvisioner.Action

theorem Answer.ofFailure_eq {failure other : Failure} (alike : failure.Alike other) :
    ofFailure failure = ofFailure other := by
  cases alike with
  | unexpected fault other => rfl
  | declared alike => simp only [ofFailure, ofCause, alike.kind, alike.message]

theorem reply_eq {result other : Except Failure Answer}
    (alike : Result.Alike Failure.Alike Eq result other) : reply result = reply other := by
  cases alike with
  | ok same => rw [same]
  | error alike => rw [reply, reply, Answer.ofFailure_eq alike]

section Answers

variable (provisioner : Option Provisioner)

theorem agree_configured : Agree Eq (configured provisioner) (configured provisioner) := by
  cases provisioner with
  | none => exact fun _ _ alike => ⟨.error (.refl _), alike⟩
  | some provisioner => exact .pure rfl

theorem agree_provisionVolume (claim : Claim) :
    Agree Eq (provisionVolume provisioner .memory claim)
      (provisionVolume provisioner .memory claim) := by
  refine .bind_same (agree_configured provisioner) fun provisioner => ?_
  exact .bind_same (provisioner.agree_provision claim) fun volume => .pure rfl

theorem agree_deleteVolume (manifest : List (Text × Json)) :
    Agree Eq (deleteVolume provisioner .memory manifest)
      (deleteVolume provisioner .memory manifest) := by
  refine .bind_same (.lift _) fun volume => ?_
  refine .bind_same (agree_configured provisioner) fun provisioner => ?_
  exact .bind_same (provisioner.agree_delete volume) fun deletion => .pure rfl

theorem agree_withBody {α : Type} (octets : Octets) (check : List (Text × Json) → Checked α)
    {go : α → Action Answer} (agree : ∀ value, Agree Eq (go value) (go value)) :
    Agree Eq (withBody octets check go) (withBody octets check go) := by
  unfold withBody
  cases readBody octets with
  | unreadable => exact .pure rfl
  | complaints complaints => exact .pure rfl
  | members members =>
      dsimp only
      cases check members with
      | error complaints => exact .pure rfl
      | ok value => exact agree value

theorem agree_answer (request : Request) :
    Agree Eq (answer provisioner .memory request) (answer provisioner .memory request) := by
  unfold answer
  cases Operation.at? request.path with
  | none =>
      dsimp only
      split
      · exact .pure rfl
      · exact .pure rfl
  | some operation =>
      dsimp only
      split
      · cases operation with
        | provision => exact agree_withBody _ _ (agree_provisionVolume provisioner)
        | delete => exact agree_withBody _ _ (agree_deleteVolume provisioner)
        | identity =>
            exact .bind_same (agree_configured provisioner) fun provisioner => .pure rfl
      · exact .pure rfl

end Answers

/-- Whether two exchanges have one answer and make calls alike. -/
structure Exchange.Alike (exchange other : Exchange) : Prop where
  answer : exchange.answer = other.answer
  calls : List.Forall₂ Call.Alike exchange.calls other.calls

/-- In worlds that look alike, the service gives the same answers. -/
theorem serve_reveals_nothing (provisioner : Option Provisioner) (requests : List Request)
    {world other : World} (alike : world.Alike other) :
    List.Forall₂ Exchange.Alike (serve provisioner .memory world requests).1
      (serve provisioner .memory other requests).1 := by
  induction requests generalizing world other with
  | nil => exact .nil
  | cons request requests induction =>
      have agrees := agree_answer provisioner request world.quiet other.quiet alike.quiet
      rw [serve_cons, serve_cons]
      exact .cons ⟨reply_eq agrees.1, agrees.2.calls⟩ (induction agrees.2)

/-! ### A sample -/

/-- A record of the sample share. -/
def recordOutput (key : String) : Octets :=
  Utf8.ofString ("\x7b\"path\":\"/s\",\"user\":\"u\",\"auth\":\"" ++ key ++ "\"\x7d")

def recordMembers (key : Text) : List (Text × Json) :=
  [("path", .text "/s"), ("user", .text "u"), ("auth", .text key)]

/-- The sample world with keys of its own, where a second run fails and says why. -/
def keyedWorld (adminKey : Octets) (grantedKey : String) (complaint : Octets) : World where
  memory := { Run.sampleWorld.memory with
    secrets := [(("default", "admin"), [("key", .octets adminKey)])] }
  runs := [.exited 0 (recordOutput grantedKey) complaint, .exited 1 complaint complaint]

theorem membersAlike_recordMembers {key other : Text} (isKey : key.IsKey) (otherIsKey : other.IsKey) :
    Agent.MembersAlike (recordMembers key) (recordMembers other) where
  rest := by
    intro name different
    have passed : ¬(("auth" : Text) == name) = true := by
      simpa using fun same => different same.symm
    simp only [recordMembers, Json.member, Entries.find?_cons, if_neg passed]
  auth := ⟨key, rfl, isKey⟩
  otherAuth := ⟨other, rfl, otherIsKey⟩

theorem keyedWorld_alike : (keyedWorld [107] "x" []).Alike (keyedWorld [108, 109] "yz" [33]) where
  memory := {
    secrets := .cons ⟨rfl, .cons ⟨rfl, .inr ⟨.octets rfl ⟨by decide, by decide⟩,
      .octets rfl ⟨by decide, by decide⟩⟩⟩ .nil⟩ .nil
    classes := rfl }
  runs := by
    have read : Json.read (Agent.outputText (recordOutput "x"))
        = .ok (.object (recordMembers "x")) := by decide +kernel
    have otherRead : Json.read (Agent.outputText (recordOutput "yz"))
        = .ok (.object (recordMembers "yz")) := by decide +kernel
    have members : Agent.MembersAlike (recordMembers "x") (recordMembers "yz") :=
      membersAlike_recordMembers ⟨by decide, by decide⟩ ⟨by decide, by decide⟩
    exact .cons (.succeeded (.objects read otherRead members) ..)
      (.cons (.failed (by decide) ..) .nil)
  nextId := rfl
  calls := .nil

theorem serve_reveals_nothing_sample :
    keyedWorld [107] "x" [] ≠ keyedWorld [108, 109] "yz" [33]
      ∧ List.Forall₂ Exchange.Alike
        (serve (some { identity := "one" }) .memory (keyedWorld [107] "x" []) sampleRequests).1
        (serve (some { identity := "one" }) .memory (keyedWorld [108, 109] "yz" [33])
          sampleRequests).1 := by
  have different : keyedWorld [107] "x" [] ≠ keyedWorld [108, 109] "yz" [33] := by
    intro same
    exact absurd (congrArg (fun world : World => world.memory.secrets) same) (by decide)
  exact ⟨different, serve_reveals_nothing (some { identity := "one" }) sampleRequests
    keyedWorld_alike⟩

end Service

end ShareProvisioner
