import ShareProvisioner.Proofs.Entries
import ShareProvisioner.Proofs.Failure.Alike
import ShareProvisioner.Proofs.Text.Plain
import ShareProvisioner.Secret

/-!
# Keys of secrets

Which entry of a secret is taken for the key depends on the names of the entries alone.
-/

namespace ShareProvisioner

/-- Whether a text can serve as a key: it says something, and a process takes it. -/
structure Text.IsKey (text : Text) : Prop where
  nonempty : text ≠ []
  plain : text.IsPlain

/-- One text, or two keys. -/
def Text.KeysAlike (text other : Text) : Prop :=
  text = other ∨ text.IsKey ∧ other.IsKey

/-- Whether the value of an entry is a key. -/
inductive SecretValue.IsKey : SecretValue → Prop
  | octets {octets : Octets} {key : Text} (decoded : Utf8.decode octets = .ok key)
      (isKey : key.IsKey) : IsKey (.octets octets)
  | text {key : Text} (isKey : key.IsKey) : IsKey (.text key)

/-- One value, or two that are keys. -/
def SecretValue.Alike (value other : SecretValue) : Prop :=
  value = other ∨ value.IsKey ∧ other.IsKey

namespace SecretData

/-- Whether two secrets have entries of the same names with values alike. -/
def Alike (data other : SecretData) : Prop :=
  Entries.Related SecretValue.Alike data other

theorem key_ne_nil {secret : SecretReference} {data : SecretData} {key : Text}
    (holds : data.key secret = .ok key) : key ≠ [] := by
  rintro rfl
  unfold SecretData.key at holds
  split at holds
  · cases holds
  · split at holds
    · cases holds
    · cases holds
    · next nonempty _ =>
        cases holds
        exact nonempty rfl
  · cases holds
  · next nonempty _ =>
      cases holds
      exact nonempty rfl

/-- A single entry is the key whatever its name. -/
theorem key_of_single {secret : SecretReference} {name key : Text} {octets : Octets}
    (decoded : Utf8.decode octets = .ok key) (nonempty : key ≠ []) :
    SecretData.key secret [(name, .octets octets)] = .ok key := by
  unfold SecretData.key select?
  dsimp only
  rw [decoded]
  cases key with
  | nil => exact absurd rfl nonempty
  | cons first rest => rfl

/-- Entries are refused only for holding no key. -/
theorem refusal_of_key {secret : SecretReference} {data : SecretData} {cause : Failure.Cause}
    (refused : data.key secret = .error cause) :
    cause = .secretEmpty secret ∨ cause = .secretInvalid secret := by
  unfold SecretData.key at refused
  split at refused
  · cases refused
    exact .inl rfl
  · split at refused
    · cases refused
      exact .inr rfl
    · cases refused
      exact .inl rfl
    · cases refused
  · cases refused
    exact .inl rfl
  · cases refused

/-! ## Secrets alike -/

section Alike

variable {data other : SecretData}

theorem Alike.least? (alike : data.Alike other) :
    Option.Rel (fun entry other => entry.1 = other.1 ∧ entry.2.Alike other.2) data.least?
      other.least? := by
  unfold Alike Entries.Related at alike
  induction alike with
  | nil => exact .none
  | @cons entry otherEntry rest others same _ induction =>
      unfold SecretData.least?
      generalize SecretData.least? rest = least at induction ⊢
      generalize SecretData.least? others = otherLeast at induction ⊢
      cases induction with
      | none => exact .some same
      | @some first second sameLeast =>
          dsimp only
          rw [← same.1, ← sameLeast.1]
          split
          · exact .some sameLeast
          · exact .some same

/-- Unless there is but one entry, the preferred one goes before the least. -/
theorem select?_of_several (several : ∀ entry, data ≠ [entry]) :
    data.select? = (Entries.find? data preferredName).or (data.least?.map Prod.snd) := by
  unfold SecretData.select?
  split
  · exact absurd rfl (several _)
  · cases Entries.find? data preferredName with
    | none => rfl
    | some value => rfl

/-- In secrets that are alike, the same entry is taken. -/
theorem Alike.select? (alike : data.Alike other) :
    Option.Rel SecretValue.Alike data.select? other.select? := by
  have several (notOne : ∀ entry, data ≠ [entry]) (otherNotOne : ∀ entry, other ≠ [entry]) :
      Option.Rel SecretValue.Alike data.select? other.select? := by
    have preferred := Entries.Related.find? alike preferredName
    have least := alike.least?
    rw [select?_of_several notOne, select?_of_several otherNotOne]
    generalize Entries.find? data preferredName = value at preferred ⊢
    generalize Entries.find? other preferredName = otherValue at preferred ⊢
    generalize data.least? = entry at least ⊢
    generalize other.least? = otherEntry at least ⊢
    cases preferred with
    | some alike => exact .some alike
    | none =>
        cases least with
        | none => exact .none
        | some sameLeast => exact .some sameLeast.2
  unfold Alike Entries.Related at alike
  cases alike with
  | nil => exact several (by simp) (by simp)
  | cons same rest =>
      cases rest with
      | nil => exact .some same.2
      | cons sameNext rest => exact several (by simp) (by simp)

theorem key_of_isKey {secret : SecretReference} {value : SecretValue}
    (selected : data.select? = some value) (isKey : value.IsKey) :
    ∃ key, data.key secret = .ok key ∧ key.IsKey := by
  unfold SecretData.key
  rw [selected]
  cases isKey with
  | @octets octets key decoded isKey =>
      refine ⟨key, ?_, isKey⟩
      dsimp only
      rw [decoded]
      cases key with
      | nil => exact absurd rfl isKey.nonempty
      | cons first rest => rfl
  | @text key isKey =>
      refine ⟨key, ?_, isKey⟩
      cases key with
      | nil => exact absurd rfl isKey.nonempty
      | cons first rest => rfl

theorem Alike.key (alike : data.Alike other) (secret : SecretReference) :
    Result.Alike Failure.Cause.Alike Text.KeysAlike (data.key secret) (other.key secret) := by
  have refl (data : SecretData) :
      Result.Alike Failure.Cause.Alike Text.KeysAlike (data.key secret) (data.key secret) :=
    .refl _ .refl fun _ => .inl rfl
  have selections := alike.select?
  cases selected : data.select? with
  | none =>
      rw [selected] at selections
      cases otherSelected : other.select? with
      | some value =>
          rw [otherSelected] at selections
          cases selections
      | none =>
          unfold SecretData.key
          rw [selected, otherSelected]
          exact .error (.refl _)
  | some value =>
      rw [selected] at selections
      cases otherSelected : other.select? with
      | none =>
          rw [otherSelected] at selections
          cases selections
      | some otherValue =>
          rw [otherSelected] at selections
          rcases selections with ⟨same | ⟨isKey, otherIsKey⟩⟩
          · have sameKey : data.key secret = other.key secret := by
              unfold SecretData.key
              rw [selected, otherSelected, same]
            rw [sameKey]
            exact refl other
          · rcases key_of_isKey selected isKey with ⟨key, holds, keyIsKey⟩
            rcases key_of_isKey otherSelected otherIsKey with ⟨otherKey, otherHolds, otherKeyIsKey⟩
            rw [holds, otherHolds]
            exact .ok (.inr ⟨keyIsKey, otherKeyIsKey⟩)

end Alike

end SecretData

end ShareProvisioner
