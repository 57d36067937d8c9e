import ShareProvisioner.Volume.Ownership
import ShareProvisioner.Proofs.Mapping

/-!
# Stamps

A volume passes for a provisioner's own exactly if it bears the provisioner's identity
together with some share.
-/

namespace ShareProvisioner

structure Volume.IsStamped (volume : Volume) (identity share : Text) : Prop where
  identity : volume.ownerIdentity = .text identity
  share : volume.shareName = .text share

theorem AnnotationKey.name_injective : Function.Injective name := by
  intro left right
  cases left <;> cases right <;> decide

namespace Ownership

variable {volume : Volume} {identity share : Text}

theorem verify_eq_owned_iff :
    verify volume identity = .owned
      ↔ volume.ownerIdentity = .text identity ∧ volume.shareName ≠ .null := by
  unfold verify
  by_cases own : volume.ownerIdentity = .text identity
  · by_cases shared : volume.shareName = .null <;> simp [own, shared]
  · by_cases stamped : volume.ownerIdentity = .null <;> simp [own, stamped]

theorem verify_eq_notMine_iff :
    verify volume identity = .notMine
      ↔ volume.ownerIdentity ≠ .null ∧ volume.ownerIdentity ≠ .text identity := by
  unfold verify
  by_cases own : volume.ownerIdentity = .text identity
  · by_cases shared : volume.shareName = .null <;> simp [own, shared]
  · by_cases stamped : volume.ownerIdentity = .null <;> simp [own, stamped]

theorem verify_eq_notFound_iff :
    verify volume identity = .notFound
      ↔ volume.ownerIdentity = .null
        ∨ volume.ownerIdentity = .text identity ∧ volume.shareName = .null := by
  unfold verify
  by_cases own : volume.ownerIdentity = .text identity
  · by_cases shared : volume.shareName = .null <;> simp [own, shared]
  · by_cases stamped : volume.ownerIdentity = .null <;> simp [own, stamped]

theorem verify_of_isStamped (stamped : volume.IsStamped identity share) :
    verify volume identity = .owned :=
  verify_eq_owned_iff.mpr ⟨stamped.identity, by simp [stamped.share]⟩

end Ownership

end ShareProvisioner
