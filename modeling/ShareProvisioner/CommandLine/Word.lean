import ShareProvisioner.Text.Digit
import ShareProvisioner.Text.Lines

/-!
# Words of a command line

A word that starts with a hyphen is an option, and a value may be attached to it: behind
an equals sign, or directly behind an option of one letter.  Long options may be
shortened as long as it stays clear which one is meant.  Reading the words ends early
when help is wanted or when they are misused.
-/

namespace ShareProvisioner.CommandLine

inductive Stop where
  | help
  | misuse
deriving DecidableEq, Repr

def splitAttached (word : Text) : Text × Option Text :=
  match word.cut? (· = .char '=') with
  | some (name, value) => (name, some value)
  | none => (word, none)

/-- Whether digits are the absolute value of a number that may have a fraction. -/
def isMagnitude (digits : Text) : Bool :=
  match digits.cut? (· = .char '.') with
  | none => !digits.isEmpty && digits.all (·.digit?.isSome)
  | some (whole, fraction) =>
      whole.all (·.digit?.isSome) && !fraction.isEmpty && fraction.all (·.digit?.isSome)

/-- Whether a word is a negative number; it may end its line. -/
def isNegativeNumber : Text → Bool
  | .char '-' :: digits => isMagnitude (Text.withoutLineEnd digits)
  | _ => false

/-- Whether a word that no known option fits is taken for an option nevertheless.  A
lone hyphen, a negative number and a word with a space in it are values. -/
def isOptionLike (word : Text) : Bool :=
  word.head? = some (.char '-') && word.length ≠ 1 && !isNegativeNumber word
    && !word.contains (CodePoint.char ' ')

example : ["--x", "-", "-5", "-a b"].map (isOptionLike ∘ Text.ofString)
    = [true, false, false, false] := by decide

/-- What a word is where certain options are known: a value, one of those options with
or without an attached value, or an option that nobody knows. -/
inductive Word where
  | value (text : Text)
  | option (name : Text) (attached : Option Text)
  | unknown
deriving DecidableEq, Repr

namespace Word

/-- The options, of those with the given names, that a word may be short for. -/
def abbreviated (names : List Text) : Text → List Word
  | word@(.char '-' :: .char '-' :: _) =>
      let (start, attached) := splitAttached word
      (names.filter fun name => start.isPrefixOf name).map fun name => .option name attached
  | .char '-' :: letter :: attached =>
      (names.filter (· = [.char '-', letter])).map fun name => .option name (some attached)
  | _ => []

/-- What a word is; one that may be short for several options is misused. -/
def ofText (names : List Text) (word : Text) : Except Stop Word :=
  if word.head? ≠ some (.char '-') then .ok (.value word)
  else if names.contains word then .ok (.option word none)
  else if word.length = 1 then .ok (.value word)
  else
    let (name, attached) := splitAttached word
    if attached.isSome && names.contains name then .ok (.option name attached)
    else match abbreviated names word with
      | [meant] => .ok meant
      | [] => .ok (if isOptionLike word then .unknown else .value word)
      | _ => .error .misuse

/-- What the words are.  Behind two hyphens there are values only. -/
def ofTexts (names : List Text) : List Text → Except Stop (List Word)
  | [] => .ok []
  | word :: rest =>
      if word = Text.ofString "--" then .ok (.unknown :: rest.map .value)
      else do return (← ofText names word) :: (← ofTexts names rest)

example : ofText (["-h", "--host", "--port"].map Text.ofString) (Text.ofString "--po=7")
    = .ok (.option (Text.ofString "--port") (some (Text.ofString "7"))) := rfl

end Word

end ShareProvisioner.CommandLine
