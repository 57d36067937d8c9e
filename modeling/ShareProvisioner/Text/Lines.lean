import ShareProvisioner.Text.CodePoint

/-!
# Line ends

A carriage return ends a line, alone or together with the line feed after it.  A line
feed at the very end of a text ends its last line and belongs to no other.
-/

namespace ShareProvisioner.Text

/-- The text with every line end written as a line feed. -/
def normalizeLines : Text → Text
  | .char '\r' :: .char '\n' :: rest => .char '\n' :: normalizeLines rest
  | .char '\r' :: rest => .char '\n' :: normalizeLines rest
  | first :: rest => first :: normalizeLines rest
  | [] => []

example : normalizeLines (ofString "a\r\nb\r\rc\n") = ofString "a\nb\n\nc\n" := by decide

def withoutLineEnd (text : Text) : Text :=
  if text.getLast? = some (.char '\n') then text.dropLast else text

example : withoutLineEnd (ofString "a\n\n") = ofString "a\n" := by decide

end ShareProvisioner.Text
