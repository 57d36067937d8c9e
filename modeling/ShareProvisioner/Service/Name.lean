import ShareProvisioner.Text.CodePoint

/-!
# Object names

Names of objects in the cluster follow RFC 1123: a label consists of small ASCII
letters, digits and hyphens and has a letter or a digit at both ends; a subdomain is
one or more labels with single dots between them.  As the pattern language of the
service has it, a line feed at the very end of a name passes unnoticed.
-/

namespace ShareProvisioner.Service

def isAlphanumeric : CodePoint → Bool :=
  CodePoint.isChar fun letter => ('a' ≤ letter && letter ≤ 'z') || ('0' ≤ letter && letter ≤ '9')

def isLabelInterior (codePoint : CodePoint) : Bool :=
  isAlphanumeric codePoint || codePoint = .char '-'

def isLabel (name : Text) : Bool :=
  name.all isLabelInterior && name.head?.any isAlphanumeric && name.getLast?.any isAlphanumeric

def isSubdomain (name : Text) : Bool :=
  (Text.pieces '.' name).all isLabel

example : isSubdomain (Text.ofString "pv-1.example") = true := by decide
example : isSubdomain (Text.ofString "pv-.x") = false := by decide

end ShareProvisioner.Service
