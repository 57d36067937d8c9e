/-!
# Results

A computation that may fail succeeds exactly if each of its parts does.
-/

namespace ShareProvisioner.Result

variable {ε ε' α β : Type}

theorem bind_eq_ok_iff {first : Except ε α} {next : α → Except ε β} {result : β} :
    first >>= next = .ok result ↔ ∃ value, first = .ok value ∧ next value = .ok result := by
  cases first with
  | error fault => simp [bind, Except.bind]
  | ok value => simp [bind, Except.bind]

theorem map_eq_ok_iff {result : Except ε α} {transform : α → β} {value : β} :
    result.map transform = .ok value ↔ ∃ given, result = .ok given ∧ transform given = value := by
  cases result with
  | error fault => simp [Except.map]
  | ok given => simp [Except.map]

theorem exists_map_eq_ok_iff {result : Except ε α} {transform : α → β} :
    (∃ value, result.map transform = .ok value) ↔ ∃ given, result = .ok given := by
  cases result with
  | error fault => simp [Except.map]
  | ok given => simp [Except.map]

@[simp] theorem mapError_eq_ok_iff {result : Except ε α} {transform : ε → ε'} {value : α} :
    result.mapError transform = .ok value ↔ result = .ok value := by
  cases result with
  | error fault => exact ⟨nofun, nofun⟩
  | ok given =>
      constructor
      · rintro ⟨rfl⟩
        rfl
      · rintro ⟨rfl⟩
        rfl

/-- If a reader accepts exactly what a writer produces from certain results, then so does
reading a list. -/
theorem mapM_eq_ok_iff {read : α → Except ε β} {write : β → α} {valid : β → Prop}
    (exact : ∀ value result, read value = .ok result ↔ value = write result ∧ valid result)
    {values : List α} {results : List β} :
    values.mapM read = .ok results
      ↔ values = results.map write ∧ ∀ result ∈ results, valid result := by
  induction values generalizing results with
  | nil => cases results <;> simp [pure, Except.pure]
  | cons value values induction =>
      simp only [List.mapM_cons, bind_eq_ok_iff, exact, induction]
      constructor
      · rintro ⟨first, ⟨rfl, firstValid⟩, rest, ⟨rfl, restValid⟩, equal⟩
        cases equal
        exact ⟨rfl, by simpa using ⟨firstValid, restValid⟩⟩
      · rintro ⟨equal, allValid⟩
        cases results with
        | nil => cases equal
        | cons first rest =>
            cases equal
            exact ⟨first, ⟨rfl, allValid first (by simp)⟩, rest,
              ⟨rfl, fun result member => allValid result (by simp [member])⟩, rfl⟩

end ShareProvisioner.Result
