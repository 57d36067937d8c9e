import ShareProvisioner.CommandLine.Tool
import ShareProvisioner.Proofs.Parameters.Acceptance
import ShareProvisioner.Proofs.Text.Plain
import ShareProvisioner.Proofs.Text.Style

/-!
# What the tool reports

Lines without lone surrogates can be printed, and lose their styles.  Why parameters are refused
can all be seen, so it is printed as it is.
-/

namespace ShareProvisioner

namespace Parameters

theorem IsRefusal.isVisible {cause : Failure.Cause} (refusal : IsRefusal cause) :
    cause.message.IsVisible := by
  have between (before after : String) (beforeVisible : Text.IsVisible before)
      (afterVisible : Text.IsVisible after) (option : Text) :
      Text.IsVisible (before ++ (option.quoted ++ after)) :=
    beforeVisible.append ((Text.isVisible_quoted option).append afterVisible)
  cases refusal with
  | unknown option => exact between "invalid option " "" (by decide) (by decide) option
  | duplicate option =>
      exact between "option " " specified more than once" (by decide) (by decide) option
  | @missing parameter required =>
      have all : ∀ parameter ∈ ["admin secret name", "monitors"].map Text.ofString,
          (Failure.Cause.missingParameter parameter).message.IsVisible := by
        decide
      exact all parameter required

theorem IsRefusal.isAboutRequest {cause : Failure.Cause} (refusal : IsRefusal cause) :
    CommandLine.isAboutRequest (.declared cause) = true := by
  cases refusal <;> rfl

theorem isScalar_valueAt {given : List (Text × Text)}
    (scalar : ∀ entry ∈ given, entry.2.isScalar = true) (key : Text) :
    (valueAt given key).isScalar = true := by
  unfold valueAt
  cases found : (folded given).find? key.foldCase with
  | none => rfl
  | some value =>
      obtain ⟨present, _, member⟩ := Entries.mem_of_find? found
      obtain ⟨entry, isEntry, same⟩ := List.mem_map.mp member
      cases same
      exact scalar entry isEntry

end Parameters

namespace CommandLine

namespace Report

theorem flatMap_printable {text : Text} (scalar : text.isScalar = true) :
    text.flatMap printable = text := by
  induction text with
  | nil => rfl
  | cons first rest induction =>
      rw [Text.isScalar_cons, Bool.and_eq_true] at scalar
      cases first with
      | char value => rw [List.flatMap_cons, induction scalar.2]; rfl
      | surrogate offset => cases scalar.1

theorem complaint_of_isVisible {text : Text} (visible : text.IsVisible) :
    complaint text = { status := 1, errors := text ++ "\n" } := by
  unfold complaint
  rw [visible.withoutStyles, flatMap_printable visible.isScalar]

theorem ofLines_of_isScalar {lines : List Text} (scalar : ∀ line ∈ lines, line.isScalar = true) :
    ofLines lines
      = { status := 0, output := lines.flatMap fun line => line.withoutStyles ++ "\n" } := by
  induction lines with
  | nil => rfl
  | cons first rest induction =>
      obtain ⟨firstScalar, restScalar⟩ := List.forall_mem_cons.mp scalar
      have behind := induction restScalar
      obtain ⟨octets, encoded⟩ := (Utf8.encodeFrom_eq_ok_iff first.withoutStyles 0).mpr
        (Text.isScalar_iff.mp (Text.isScalar_withoutStyles firstScalar))
      unfold ofLines at behind ⊢
      rw [List.foldr_cons, behind, afterLine, Utf8.encode, encoded]
      rfl

end Report

theorem read_validate (file : Text) :
    read ["parameters", "validate", "--file", file] = .ok (.validate, { file := some file }) :=
  rfl

end CommandLine

end ShareProvisioner
