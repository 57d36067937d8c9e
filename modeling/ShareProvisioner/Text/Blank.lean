import ShareProvisioner.Text.Ranges

/-!
# White space

A code point is blank if it has the Unicode property of white space or is one
of the four separators for files, groups, records and units.
-/

namespace ShareProvisioner

namespace CodePoint

def blankRanges : List (Nat × Nat) :=
  [(0x09, 0x0D), (0x1C, 0x20), (0x85, 0x85), (0xA0, 0xA0), (0x1680, 0x1680),
    (0x2000, 0x200A), (0x2028, 0x2029), (0x202F, 0x202F), (0x205F, 0x205F),
    (0x3000, 0x3000)]

def isBlank : CodePoint → Bool :=
  inRanges blankRanges

example : isBlank '\u3000' = true ∧ isBlank '\u200b' = false := by decide

end CodePoint

namespace Text

def strip (text : Text) : Text :=
  trim CodePoint.isBlank text

example : strip (ofString "\t a b\u0085") = ofString "a b" := by decide

end Text

end ShareProvisioner
