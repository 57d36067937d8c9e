import ShareProvisioner.Failure.Fault

/-!
# Failures that look alike

Two declared failures look alike if they are of one kind and have the same arguments: what
the agent printed may differ.  Faults all look alike to a caller who is told nothing about
them.
-/

namespace ShareProvisioner

namespace Failure

structure Cause.Alike (cause other : Cause) : Prop where
  kind : cause.kind = other.kind
  arguments : cause.arguments = other.arguments

theorem Cause.Alike.refl (cause : Cause) : cause.Alike cause := ⟨rfl, rfl⟩

/-- Failures that look alike have one message. -/
theorem Cause.Alike.message {cause other : Cause} (alike : cause.Alike other) :
    cause.message = other.message := by
  have filled := cause.fill_template
  rw [alike.kind, alike.arguments, other.fill_template] at filled
  exact (Except.ok.inj filled).symm

/-- All faults look alike. -/
def Fault.Alike (_ _ : Fault) : Prop := True

inductive Alike : Failure → Failure → Prop
  | declared {cause other : Cause} (alike : cause.Alike other) :
      Alike (.declared cause) (.declared other)
  | unexpected (fault other : Fault) : Alike (.unexpected fault) (.unexpected other)

theorem Alike.refl (failure : Failure) : failure.Alike failure := by
  cases failure with
  | declared cause => exact .declared (.refl cause)
  | unexpected fault => exact .unexpected fault fault

end Failure

/-- Whether two results both succeed with related values or both fail alike. -/
inductive Result.Alike {ε α : Type} (failures : ε → ε → Prop) (values : α → α → Prop) :
    Except ε α → Except ε α → Prop
  | ok {value other : α} (related : values value other) :
      Alike failures values (.ok value) (.ok other)
  | error {failure other : ε} (alike : failures failure other) :
      Alike failures values (.error failure) (.error other)

namespace Result.Alike

variable {ε ε' α : Type} {failures : ε → ε → Prop} {values : α → α → Prop}

theorem refl (result : Except ε α) (failuresRefl : ∀ failure, failures failure failure)
    (valuesRefl : ∀ value, values value value) : Result.Alike failures values result result := by
  cases result with
  | ok value => exact .ok (valuesRefl value)
  | error failure => exact .error (failuresRefl failure)

theorem mapError {others : ε' → ε' → Prop} {transform : ε → ε'} {result other : Except ε α}
    (alike : Result.Alike failures values result other)
    (transforms : ∀ failure other, failures failure other →
      others (transform failure) (transform other)) :
    Result.Alike others values (result.mapError transform) (other.mapError transform) := by
  cases alike with
  | ok related => exact .ok related
  | error alike => exact .error (transforms _ _ alike)

end Result.Alike

end ShareProvisioner
