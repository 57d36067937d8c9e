import ShareProvisioner.Failure.Fault
import ShareProvisioner.Text.Lines

/-!
# Files

The files that an operation can read are given beforehand, by the names that lead to
them from the root.  There is a directory wherever one is given, wherever a file lies
below it, and where the operation works.  What is not given does not exist.
-/

namespace ShareProvisioner

structure Path where
  root : Text := []
  names : List Text
deriving DecidableEq, Repr

namespace Path

/-- The path that a text spells.  Repeated slashes and single dots say nothing, except
that exactly two slashes in front are kept. -/
def ofText (text : Text) : Path where
  root :=
    match (text.takeWhile (· = .char '/')).length with
    | 0 => []
    | 2 => "//"
    | _ => "/"
  names := (Text.pieces '/' text).filter fun name => !(name.isEmpty || name = Text.ofString ".")

def display (path : Path) : Text :=
  if path.root.isEmpty && path.names.isEmpty then "."
  else path.root ++ Text.join "/" path.names

example : (ofText (Text.ofString "./a//b/")).display = Text.ofString "a/b" := by decide

/-- Adds a name to those in reverse; two dots take one away. -/
def climb (reversed : List Text) (name : Text) : List Text :=
  if name = Text.ofString ".." then reversed.tail else name :: reversed

/-- The path without two dots, each taken to undo the name before it. -/
def flatten (path : Path) : Path :=
  { path with names := (path.names.foldl climb []).reverse }

/-- The path itself if it starts at the root, and else the path below the directory that
names lead to from there. -/
def below (directory : List Text) (path : Path) : Path :=
  if path.root.isEmpty then { root := "/", names := directory ++ path.names } else path

end Path

/-- The files and directories that there are, and the directory in which an operation
works. -/
structure Files where
  directory : List Text := []
  contents : List (List Text × Octets) := []
  directories : List (List Text) := []
deriving DecidableEq, Repr

namespace Files

inductive Node where
  | file (octets : Octets)
  | directory
deriving DecidableEq, Repr

def places (files : Files) : List (List Text) :=
  files.directory :: files.directories ++ files.contents.map Prod.fst

def node? (files : Files) (place : List Text) : Option Node :=
  match files.contents.lookup place with
  | some octets => some (.file octets)
  | none => if files.places.any place.isPrefixOf then some .directory else none

/-- The names in a directory, some of which may occur repeatedly. -/
def namesIn (files : Files) (place : List Text) : List Text :=
  files.places.filterMap fun other =>
    if place.isPrefixOf other then other[place.length]? else none

def maxNameSize : Nat := 255

def maxPathSize : Nat := 4095

def sizeOf (name : Text) : Nat :=
  match Utf8.encodeName name with
  | .ok octets => octets.length
  | .error _ => 0

/-- Follows names from a place; only from a directory does the way go on.  Above the
root there is the root. -/
def follow (files : Files) (place : List Text) :
    List Text → Except Failure.FileProblem Node
  | [] =>
      match files.node? place with
      | some node => .ok node
      | none => .error .absent
  | name :: rest =>
      match files.node? place with
      | none => .error .absent
      | some (.file _) => .error .notDirectory
      | some .directory =>
          if name = Text.ofString ".." then follow files place.dropLast rest
          else if maxNameSize < sizeOf name then .error .nameTooLong
          else follow files (place ++ [name]) rest

/-- Whether the text of a path can only be that of a directory. -/
def namesDirectory (name : Text) : Bool :=
  match (Text.pieces '/' name).getLast? with
  | some last => last.isEmpty || last = Text.ofString "."
  | none => false

def find (files : Files) (name : Text) : Except Failure.FileProblem Node :=
  if name.isEmpty then .error .absent
  else if maxPathSize < sizeOf name then .error .nameTooLong
  else
    let path := Path.ofText name
    match files.follow (if path.root.isEmpty then files.directory else []) path.names with
    | .ok (.file octets) => if namesDirectory name then .error .notDirectory else .ok (.file octets)
    | found => found

/-- Refuses a name that the operating system does not take, be it of a file or for a
process. -/
def checkName (name : Text) : Except Failure.Fault Unit :=
  match Utf8.encodeName name with
  | .error fault => .error (.unencodable fault)
  | .ok _ => if name.contains (CodePoint.char '\x00') then .error .nulInProcess else .ok ()

def contains (files : Files) (name : Text) : Bool :=
  (checkName name).toBool && (files.find name).toBool

def read (files : Files) (name : Text) : Except Failure.Fault Octets := do
  checkName name
  match files.find name with
  | .ok (.file octets) => return octets
  | .ok .directory => throw (.unreadable name .isDirectory)
  | .error problem => throw (.unreadable name problem)

/-- The text of the path to a file from the root.  It ends where the name of the file
has a NUL. -/
def absolute (files : Files) (name : Text) : Text :=
  ((Path.ofText name).below files.directory).flatten.display.takeWhile (· ≠ .char '\x00')

/-- The text that octets hold in UTF-8, with every line end as a line feed. -/
def textOf (octets : Octets) : Except Failure.Fault Text :=
  match Utf8.decode octets with
  | .ok text => .ok text.normalizeLines
  | .error fault => .error (.undecodable fault)

def pieceSize : Nat := 8192

/-- The lines that octets hold in UTF-8, joined by line feeds again. -/
def linesOf (octets : Octets) : Except Failure.Fault Text :=
  match Utf8.decodeInPieces pieceSize octets with
  | .ok text => .ok text.normalizeLines
  | .error fault => .error (.undecodable fault)

end Files

end ShareProvisioner
