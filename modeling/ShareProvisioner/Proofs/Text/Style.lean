import ShareProvisioner.Proofs.Text.Scalar
import ShareProvisioner.Text.Style

/-!
# Texts without styles

A style starts with an escape, which cannot be seen.  So a text without one loses nothing, and one
that can be seen as a whole is such a text.
-/

namespace ShareProvisioner.Text

theorem withoutStylesAfter_subset (pending : Nat) (text : Text) :
    withoutStylesAfter pending text ⊆ text := by
  induction text generalizing pending with
  | nil => exact List.Subset.refl _
  | cons first rest induction =>
      cases pending with
      | succ pending => exact List.subset_cons_of_subset first (induction pending)
      | zero =>
          rw [withoutStylesAfter]
          split
          · exact List.subset_cons_of_subset first (induction _)
          · exact List.cons_subset_cons first (induction 0)

theorem isScalar_withoutStyles {text : Text} (scalar : text.isScalar = true) :
    text.withoutStyles.isScalar = true :=
  isScalar_of_subset scalar (withoutStylesAfter_subset 0 text)

theorem withoutStyles_of_not_mem {text : Text} (absent : .char '\x1b' ∉ text) :
    text.withoutStyles = text := by
  unfold withoutStyles
  induction text with
  | nil => rfl
  | cons first rest induction =>
      rw [List.mem_cons, not_or] at absent
      have noStyle : styleSize? (first :: rest) = none := by
        unfold styleSize?
        split
        · next same => exact absurd (List.cons.inj same).1.symm absent.1
        · rfl
      rw [withoutStylesAfter, noStyle]
      exact congrArg (first :: ·) (induction absent.2)

theorem IsVisible.withoutStyles {text : Text} (visible : text.IsVisible) :
    text.withoutStyles = text := by
  apply withoutStyles_of_not_mem
  intro member
  exact absurd (visible _ member) (by decide)

end ShareProvisioner.Text
