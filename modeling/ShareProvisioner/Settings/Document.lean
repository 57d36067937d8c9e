import ShareProvisioner.Text.Blank

/-!
# Documents with settings

A document with settings consists of lines.  `[name]` starts a section; `key = value`
or `key: value` assigns in the section before it; a line that starts with a blank goes
on with the value above; `#` and `;` start comments.  An empty line ends a value.
-/

namespace ShareProvisioner.Settings

structure Assignment where
  sectionName : Text
  key : Text
  value : Text
deriving DecidableEq, Repr

/-- A value that may still go on: its key, and its lines in reverse. -/
structure Pending where
  key : Text
  reversed : List Text
deriving DecidableEq, Repr

structure Reading where
  sectionName : Option Text := none
  pending : Option Pending := none
  assignments : List Assignment := []
deriving DecidableEq, Repr

inductive Line where
  | empty
  | continuation (text : Text)
  | heading (name : Text)
  | comment
  | assignment (key value : Text)
  | malformed
deriving DecidableEq, Repr

/-- A value without the quotes around it, if they match. -/
def unquote (value : Text) : Text :=
  match value with
  | first :: _ =>
      if (first = .char '"' || first = .char '\'') && value.getLast? = some first then
        value.tail.dropLast
      else value
  | [] => []

/-- A line of the form `[name]`. -/
def headingOf (line : Text) : Line :=
  if line.getLast? = some (.char ']') && 2 < line.length then .heading line.tail.dropLast
  else .malformed

/-- A line of the form `key = value` or `key: value`. -/
def assignmentOf (line : Text) : Line :=
  match line.cut? (fun mark => mark = .char '=' || mark = .char ':') with
  | none => .malformed
  | some (key, value) =>
      if key.strip.isEmpty then .malformed else .assignment key.strip (unquote value.strip)

def lineOf (line : Text) : Line :=
  match line with
  | [] => .empty
  | .char ' ' :: _ | .char '\t' :: _ => .continuation line.strip
  | .char '[' :: _ => headingOf line
  | .char '#' :: _ | .char ';' :: _ => .comment
  | _ => assignmentOf line

namespace Reading

/-- The reading after the pending value has been assigned; outside of any section that
cannot be. -/
def flush? (reading : Reading) : Option Reading :=
  match reading.pending with
  | none => some reading
  | some pending =>
      reading.sectionName.map fun sectionName =>
        { reading with
          pending := none
          assignments := reading.assignments ++
            [⟨sectionName, pending.key, Text.join "\n" pending.reversed.reverse⟩] }

def take? (reading : Reading) : Line → Option Reading
  | .empty => reading.flush?
  | .continuation text =>
      reading.pending.map fun pending =>
        { reading with pending := some { pending with reversed := text :: pending.reversed } }
  | .heading name => reading.flush?.map fun flushed => { flushed with sectionName := some name }
  | .comment => reading.flush?
  | .assignment key value =>
      reading.flush?.map fun flushed => { flushed with pending := some ⟨key, [value]⟩ }
  | .malformed => none

end Reading

/-- The assignments in lines, the first of which has the given number; or the number of
a line that is no part of a document. -/
def readLines (reading : Reading) (number : Nat) : List Text → Except Nat (List Assignment)
  | [] =>
      match reading.flush? with
      | some finished => .ok finished.assignments
      | none => .error (number - 1)
  | line :: rest =>
      match reading.take? (lineOf (line.trimRight CodePoint.isBlank)) with
      | some next => readLines next (number + 1) rest
      | none => .error number

def readDocument (document : Text) : Except Nat (List Assignment) :=
  readLines {} 1 (Text.pieces '\n' document)

example : readDocument (Text.ofString "[a]\nb = 'c'\n  d\n\n# e\n") =
    .ok [⟨Text.ofString "a", Text.ofString "b", Text.ofString "c\nd"⟩] := rfl

end ShareProvisioner.Settings
