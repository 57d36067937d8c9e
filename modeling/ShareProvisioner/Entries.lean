/-!
# Ordered entries

A mapping is a list of keys with their values, in the order in which the keys first
arrived.  Writing to a key that is present replaces its value and moves nothing.
-/

namespace ShareProvisioner

/-- Keys with their values, in order of arrival. -/
abbrev Entries (κ : Type u) (ν : Type v) := List (κ × ν)

namespace Entries

variable {κ : Type u} {ν : Type v} [BEq κ]

def insert (entries : Entries κ ν) (key : κ) (value : ν) : Entries κ ν :=
  match entries with
  | [] => [(key, value)]
  | (present, old) :: rest =>
      if present == key then (present, value) :: rest
      else (present, old) :: insert rest key value

def insertAll (entries : Entries κ ν) (pairs : List (κ × ν)) : Entries κ ν :=
  pairs.foldl (fun entries (key, value) => insert entries key value) entries

def ofList (pairs : List (κ × ν)) : Entries κ ν :=
  insertAll [] pairs

def find? (entries : Entries κ ν) (key : κ) : Option ν :=
  match entries with
  | [] => none
  | (present, value) :: rest => if present == key then some value else find? rest key

def erase (entries : Entries κ ν) (key : κ) : Entries κ ν :=
  entries.filter fun (present, _) => !(present == key)

example : ofList [("b", 1), ("a", 2), ("b", 3)] = [("b", 3), ("a", 2)] := by decide

end Entries

end ShareProvisioner
