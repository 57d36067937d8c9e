import ShareProvisioner.Text.CodePoint

/-!
# Classes of code points given by ranges

A property of code points is tabled as the ascending list of the closed ranges
that have it.
-/

namespace ShareProvisioner.CodePoint

/-- Whether the number of the code point lies in one of the closed ranges. -/
def inRanges (ranges : List (Nat × Nat)) (codePoint : CodePoint) : Bool :=
  ranges.any fun (first, last) => first ≤ codePoint.toNat && codePoint.toNat ≤ last

end ShareProvisioner.CodePoint
