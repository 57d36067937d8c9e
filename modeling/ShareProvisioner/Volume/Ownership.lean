import ShareProvisioner.Volume.Descriptor

/-!
# Ownership

Only the provisioner that created a volume may destroy the share behind it.  A volume
is stamped with the identity of its provisioner and with the share's name; a volume
without the stamp is nobody's to delete.
-/

namespace ShareProvisioner

/-- Whose a volume is, seen from one provisioner. -/
inductive Ownership where
  | owned
  | notFound
  | notMine
deriving DecidableEq, Repr

namespace Ownership

def stamp (identity share : Text) : Mapping :=
  [(.text AnnotationKey.identity.name, .text identity),
    (.text AnnotationKey.share.name, .text share)]

/-- Compares the identity on a volume with a provisioner's own.  Another identity
settles the matter; one's own counts only together with the share. -/
def verify (volume : Volume) (identity : Text) : Ownership :=
  if volume.ownerIdentity = .null then notFound
  else if volume.ownerIdentity ≠ .text identity then notMine
  else if volume.shareName = .null then notFound
  else owned

end Ownership

end ShareProvisioner
