import Mathlib.Data.List.TakeWhile
import ShareProvisioner.Agent.Record
import ShareProvisioner.Proofs.Json.Content

/-!
# Complete records
-/

namespace ShareProvisioner.Agent

structure Record.IsComplete (record : Record) : Prop where
  path : record.path ≠ []
  user : record.user ≠ []
  key : record.key ≠ []

/-- A record is read off an object that says something of each of its fields. -/
theorem Record.parse_eq_ok_iff {output : Text} {record : Record} :
    Record.parse output = .ok record
      ↔ ∃ members, Json.read output = .ok (.object members)
        ∧ (∀ field : Failure.RecordField, (Json.member members field.name).isTruthy = true)
        ∧ record = {
          path := (Json.member members Failure.RecordField.path.name).display
          user := (Json.member members Failure.RecordField.user.name).display
          key := (Json.member members Failure.RecordField.auth.name).display } := by
  have complete_iff (members : List (Text × Json)) :
      (missing members).isEmpty = true
        ↔ ∀ field : Failure.RecordField, (Json.member members field.name).isTruthy = true := by
    rw [List.isEmpty_iff, missing, List.filter_eq_nil_iff]
    constructor
    · intro silent field
      simpa using silent field (by cases field <;> simp)
    · intro truthy field _
      simp [truthy field]
  unfold Record.parse
  constructor
  · intro parsed
    split at parsed
    · cases parsed
    · next members read =>
        split at parsed
        · next complete =>
            cases parsed
            exact ⟨members, read, (complete_iff members).mp complete, rfl⟩
        · cases parsed
    · cases parsed
  · rintro ⟨members, read, truthy, rfl⟩
    rw [read]
    exact if_pos ((complete_iff members).mpr truthy)

theorem Record.parse_isComplete {output : Text} {record : Record}
    (parsed : Record.parse output = .ok record) : record.IsComplete := by
  rcases Record.parse_eq_ok_iff.mp parsed with ⟨members, _, truthy, rfl⟩
  exact ⟨Json.display_ne_nil (truthy .path), Json.display_ne_nil (truthy .user),
    Json.display_ne_nil (truthy .auth)⟩

theorem Record.refusal_of_parse {output : Text} {cause : Failure.Cause}
    (refused : Record.parse output = .error cause) :
    ∃ problem, cause = .badRecord problem output := by
  unfold Record.parse at refused
  split at refused
  · cases refused
    exact ⟨_, rfl⟩
  · split at refused
    · cases refused
    · cases refused
      exact ⟨_, rfl⟩
  · cases refused
    exact ⟨_, rfl⟩

theorem refusal_of_exportPath {path : Text} {cause : Failure.Cause}
    (refused : exportPath path = .error cause) : cause = .badRecord (.relativePath path) path := by
  unfold exportPath at refused
  split at refused
  · cases refused
    rfl
  · cases refused

theorem exportPath_subset {path absolute : Text} (located : exportPath path = .ok absolute) :
    absolute ⊆ path := by
  unfold exportPath at located
  split at located
  · cases located
  · cases located
    exact (List.dropWhile_sublist _).subset

theorem slash_mem_of_exportPath {path absolute : Text}
    (located : exportPath path = .ok absolute) : CodePoint.char '/' ∈ path := by
  by_cases present : CodePoint.char '/' ∈ path
  · exact present
  · have nothing : path.dropWhile (· ≠ .char '/') = [] := by
      rw [List.dropWhile_eq_nil_iff]
      intro codePoint member
      have different : codePoint ≠ .char '/' := fun equal => present (equal ▸ member)
      simpa using different
    rw [exportPath, nothing] at located
    cases located

end ShareProvisioner.Agent
