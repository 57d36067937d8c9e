import ShareProvisioner.Format.Fill

/-!
# Message templates

A template is a list of parts: fixed texts, and places where a named argument is shown.
It can be filled with arguments among which are all those that it names.
-/

namespace ShareProvisioner

namespace Template

inductive Style where
  | shown
  | quoted
deriving DecidableEq, Repr

def Style.apply (argument : Json) : Style → Text
  | shown => argument.display
  | quoted => argument.quoted

inductive Part where
  | literal (text : Text)
  | argument (name : Text) (style : Style)
deriving DecidableEq, Repr

instance : Coe Text Part := ⟨.literal⟩

def Part.shown (name : Text) : Part := .argument name .shown

def Part.quoted (name : Text) : Part := .argument name .quoted

end Template

/-- A message with places for its arguments. -/
abbrev Template := List Template.Part

namespace Template

def fill (arguments : Entries Text Json) : Template → Except Format.Fault Text
  | [] => .ok []
  | .literal text :: rest => (fill arguments rest).map (text ++ ·)
  | .argument name style :: rest =>
      match arguments.find? name with
      | none => .error (.missing name)
      | some argument => (fill arguments rest).map (style.apply argument ++ ·)

example : fill [("a", .integer 5), ("b", .text (Text.ofString "x"))]
    [Text.ofString "100% ", .shown "a", Text.ofString " ", .quoted "b"] =
      .ok (Text.ofString "100% 5 'x'") := rfl

end Template

end ShareProvisioner
