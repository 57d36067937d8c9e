import ShareProvisioner.Text.Letter

/-!
# References in values

The text of a value may refer to other values: `$name` and `${name}` stand for the
value of that name.  Two dollar signs stand for one, and so does a dollar sign behind a
backslash; any other dollar sign stands for itself.
-/

namespace ShareProvisioner.Settings

inductive Piece where
  | literal (codePoint : CodePoint)
  | reference (name : Text)
deriving DecidableEq, Repr

namespace Piece

def startsName (codePoint : CodePoint) : Bool :=
  codePoint.isLetter || codePoint = .char '_'

def continuesName (codePoint : CodePoint) : Bool :=
  startsName codePoint || codePoint.isDecimal || codePoint = .char '.'

def leadingName : Text → Text
  | [] => []
  | first :: rest => if startsName first then first :: rest.takeWhile continuesName else []

/-- What follows a dollar sign, with the number of code points that belong to it. -/
def behindDollar (rest : Text) : Piece × Nat :=
  let named := leadingName rest
  let braced := leadingName rest.tail
  let isClosed := rest[braced.length + 1]? = some (.char '\x7d')
  if rest.head? = some (.char '$') then (.literal '$', 1)
  else if !named.isEmpty then (.reference named, named.length)
  else if rest.head? = some (.char '\x7b') && !braced.isEmpty && isClosed then
    (.reference braced, braced.length + 2)
  else (.literal '$', 0)

/-- The pieces of a text without its first `pending` code points, which belong to a
piece that has been read. -/
def ofTextAfter (pending : Nat) : Text → List Piece
  | [] => []
  | first :: rest =>
      match pending with
      | pending + 1 => ofTextAfter pending rest
      | 0 =>
          if first = .char '$' then
            (behindDollar rest).1 :: ofTextAfter (behindDollar rest).2 rest
          else .literal first :: ofTextAfter 0 rest

/-- The text with a dollar sign in place of a backslash before one. -/
def doubleDollars : Text → Text
  | .char '\\' :: .char '$' :: rest => .char '$' :: .char '$' :: doubleDollars rest
  | first :: rest => first :: doubleDollars rest
  | [] => []

def ofText (text : Text) : List Piece :=
  ofTextAfter 0 (doubleDollars text)

example : ofText (Text.ofString "\\$$a.b$\x7bc\x7d$") =
    [.literal '$', .reference (Text.ofString "a.b"), .reference (Text.ofString "c"),
      .literal '$'] := by decide

end Piece

def joinPieces {ε : Type} (look : Text → Except ε Text) : List Piece → Except ε Text
  | [] => .ok []
  | .literal codePoint :: rest => (joinPieces look rest).map (codePoint :: ·)
  | .reference name :: rest =>
      match look name with
      | .error fault => .error fault
      | .ok value => (joinPieces look rest).map (value ++ ·)

/-- The text of a value with every reference replaced by what `look` finds under its
name. -/
def fillReferences {ε : Type} (look : Text → Except ε Text) (text : Text) : Except ε Text :=
  joinPieces look (Piece.ofText text)

end ShareProvisioner.Settings
