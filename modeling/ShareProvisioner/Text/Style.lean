import ShareProvisioner.Text.CodePoint

/-!
# Styles

A text for a terminal may hold changes of style: an escape with an opening bracket, digits,
semicolons and question marks, and a letter.  Output to anything else is printed without them.
-/

namespace ShareProvisioner.Text

def isStyleArgument (codePoint : CodePoint) : Bool :=
  codePoint.isDecimal || codePoint = .char ';' || codePoint = .char '?'

/-- How many code points the change of style at the front of a text has, if there is one. -/
def styleSize? : Text → Option Nat
  | .char '\x1b' :: .char '[' :: rest =>
      if (rest.dropWhile isStyleArgument).head?.any (·.isChar Char.isAlpha) then
        some ((rest.takeWhile isStyleArgument).length + 3)
      else none
  | _ => none

/-- The text without its changes of style; its first `pending` code points belong to one. -/
def withoutStylesAfter (pending : Nat) : Text → Text
  | [] => []
  | first :: rest =>
      match pending with
      | pending + 1 => withoutStylesAfter pending rest
      | 0 =>
          match styleSize? (first :: rest) with
          | some size => withoutStylesAfter (size - 1) rest
          | none => first :: withoutStylesAfter 0 rest

def withoutStyles (text : Text) : Text :=
  withoutStylesAfter 0 text

example : withoutStyles (ofString "\x1b[1;31mred\x1b[m \x1b[1") = ofString "red \x1b[1" := by decide

end ShareProvisioner.Text
