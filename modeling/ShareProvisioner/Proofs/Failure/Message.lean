import ShareProvisioner.Failure.Fault
import ShareProvisioner.Proofs.Json.Scalar

/-!
# Messages that can be sent

A message has a lone surrogate only if an argument has one that the template shows as it
is.  Quoted arguments, numbers and whatever a template says by itself are harmless.
-/

namespace ShareProvisioner

theorem Template.isScalar_fill {arguments : Entries Text Json} {template : Template}
    {message : Text} (literals : ∀ text, .literal text ∈ template → text.isScalar = true)
    (shown : ∀ name argument, Part.shown name ∈ template → arguments.find? name = some argument →
      argument.isScalar = true)
    (filled : fill arguments template = .ok message) : message.isScalar = true := by
  induction template generalizing message with
  | nil =>
      cases filled
      rfl
  | cons part rest induction =>
      have restScalar {text : Text} (restFilled : fill arguments rest = .ok text) :
          text.isScalar = true :=
        induction (fun text member => literals text (List.mem_cons_of_mem _ member))
          (fun name argument member => shown name argument (List.mem_cons_of_mem _ member))
          restFilled
      cases part with
      | literal text =>
          unfold fill at filled
          cases restFilled : fill arguments rest with
          | error fault =>
              rw [restFilled] at filled
              cases filled
          | ok restText =>
              rw [restFilled] at filled
              cases filled
              simp [literals text (by simp), restScalar restFilled]
      | argument name style =>
          unfold fill at filled
          split at filled
          · cases filled
          · next argument found =>
              have applied : (style.apply argument).isScalar = true := by
                cases style with
                | shown => exact Json.isScalar_display (shown name argument (by simp [Part.shown])
                    found)
                | quoted => exact Json.isScalar_quoted argument
              cases restFilled : fill arguments rest with
              | error fault =>
                  rw [restFilled] at filled
                  cases filled
              | ok restText =>
                  rw [restFilled] at filled
                  cases filled
                  simp [applied, restScalar restFilled]

namespace Failure

theorem Kind.isScalar_of_literal {kind : Kind} {text : Text}
    (said : .literal text ∈ kind.template) : text.isScalar = true := by
  cases kind <;>
    simp only [template, Template.Part.shown, Template.Part.quoted, List.mem_cons,
      Template.Part.literal.injEq, reduceCtorEq, List.not_mem_nil, or_false, false_or] at said <;>
    rcases said with rfl | rfl | rfl <;> exact Text.isScalar_ofString _

theorem Kind.isScalar_name (kind : Kind) : kind.name.isScalar = true := by
  cases kind <;> exact Text.isScalar_ofString _

namespace Cause

/-- Whether no argument that the message shows as it is holds a lone surrogate. -/
def IsScalar (cause : Cause) : Prop :=
  ∀ name argument, Template.Part.shown name ∈ cause.kind.template →
    cause.arguments.find? name = some argument → argument.isScalar = true

theorem IsScalar.message {cause : Cause} (scalar : cause.IsScalar) :
    cause.message.isScalar = true :=
  Template.isScalar_fill (fun _ => Kind.isScalar_of_literal) scalar cause.fill_template

theorem IsScalar.of_arguments {cause : Cause}
    (scalar : ∀ argument ∈ cause.arguments.map Prod.snd, argument.isScalar = true) :
    cause.IsScalar := by
  intro name argument _ found
  rcases Entries.mem_of_find? found with ⟨present, _, member⟩
  exact scalar argument (List.mem_map_of_mem member)

/-! ## Problems -/

theorem isScalar_badVolume {volume : Json} (scalar : volume.isScalar = true)
    (problem : VolumeProblem) : (badVolume volume problem).IsScalar := by
  have details : problem.details.isScalar = true := by
    cases problem <;> exact Text.isScalar_ofString _
  exact .of_arguments (by simp [arguments, scalar, details])

/-- No problem with a record shows what the agent printed, except in quotes. -/
theorem isScalar_badRecord (problem : RecordProblem) (output : Text) :
    (badRecord problem output).IsScalar := by
  have details : problem.details.isScalar = true := by
    cases problem with
    | notJson fault =>
        cases fault with
        | malformed problem line column position =>
            have said : problem.message.isScalar = true := by
              cases problem <;> exact Text.isScalar_ofString _
            simp [RecordProblem.details, Json.Fault.message, said]
        | longNumeral digits => simp [RecordProblem.details, Json.Fault.message]
    | notObject => exact Text.isScalar_ofString _
    | incomplete missing =>
        have fields : (Text.join ", " (missing.map RecordField.name)).isScalar = true := by
          refine Text.isScalar_join (Text.isScalar_ofString _) fun field member => ?_
          rcases List.mem_map.mp member with ⟨isField, _, rfl⟩
          cases isField <;> exact Text.isScalar_ofString _
        simp [RecordProblem.details, fields]
    | relativePath path => simp [RecordProblem.details]
  exact .of_arguments (by simp [arguments, details])

end Cause

end Failure

end ShareProvisioner
