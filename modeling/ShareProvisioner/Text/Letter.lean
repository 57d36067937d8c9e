import ShareProvisioner.Text.Ranges

/-!
# Letters up to case

Four letters beyond ASCII differ from an ASCII letter in case only: the capital I with a
dot, the small i without one, the long s, and the sign for kelvin.
-/

namespace ShareProvisioner.CodePoint

def letterRanges : List (Nat × Nat) :=
  [(0x41, 0x5A), (0x61, 0x7A), (0x130, 0x131), (0x17F, 0x17F), (0x212A, 0x212A)]

/-- Whether the code point is an ASCII letter up to case. -/
def isLetter : CodePoint → Bool :=
  inRanges letterRanges

example : isLetter 'k' = true ∧ isLetter '\u212A' = true ∧ isLetter 'é' = false := by decide

end ShareProvisioner.CodePoint
