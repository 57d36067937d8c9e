import ShareProvisioner.CommandLine.Bundle
import ShareProvisioner.Proofs.Entries.Keys
import ShareProvisioner.Proofs.Failure.Result
import ShareProvisioner.Proofs.Parameters.Acceptance
import ShareProvisioner.Proofs.Text.Pieces

/-!
# Loading a bundle

What a file gives are entries with distinct keys, and each option writes one more entry, so what
is loaded has distinct keys too.  As a mapping such a bundle has just its entries.
-/

namespace ShareProvisioner

/-- Entries with distinct keys make up a mapping as they stand. -/
theorem Mapping.ofTexts_of_distinct {given : List (Text × Text)}
    (distinct : (given.map Prod.fst).Nodup) : ofTexts given = Parameters.bundle given := by
  apply Entries.ofList_eq_self
  rw [List.pairwise_map]
  apply (List.pairwise_map.mp distinct).imp
  intro one another different
  simpa using different

namespace Bundle

/-- The option that gives a value under a key. -/
def assignment (entry : Text × Text) : Text :=
  entry.1 ++ .char '=' :: entry.2

theorem entryOf_assignment {entry : Text × Text} (whole : CodePoint.char '=' ∉ entry.1) :
    entryOf (assignment entry) = .ok entry := by
  unfold entryOf assignment
  rw [Text.cut?_append whole]

/-- Options are written to the bundle in their order. -/
theorem addOptions_assignments {entries : List (Text × Text)}
    (whole : ∀ entry ∈ entries, CodePoint.char '=' ∉ entry.1) (bundle : Bundle) :
    addOptions bundle (entries.map assignment) = .ok (bundle.insertAll entries) := by
  induction entries generalizing bundle with
  | nil => rfl
  | cons entry rest induction =>
      have others := induction fun other member => whole other (List.mem_cons_of_mem _ member)
      rw [List.map_cons, addOptions, entryOf_assignment (whole entry List.mem_cons_self)]
      exact others _

/-- The entries to which options are added: those of the file, if one is given. -/
def base (files : Files) : Option Path → Except Failure.Fault Bundle
  | some path => ofFile files path
  | none => .ok []

/-- A file is read before any option is looked at. -/
theorem load_eq (files : Files) (options : List Text) (file : Option Path) :
    load files options file = base files file >>= (addOptions · options) := by
  cases file with
  | none => rfl
  | some path => rfl

theorem load_over_base {files : Files} {file : Option Path} {given : Bundle}
    (read : base files file = .ok given) {entries : List (Text × Text)}
    (whole : ∀ entry ∈ entries, CodePoint.char '=' ∉ entry.1) :
    load files (entries.map assignment) file = .ok (given.insertAll entries) := by
  rw [load_eq, read]
  exact addOptions_assignments whole given

theorem load_assignments {files : Files} {path : Path} {given : Bundle}
    (read : ofFile files path = .ok given) {entries : List (Text × Text)}
    (whole : ∀ entry ∈ entries, CodePoint.char '=' ∉ entry.1) :
    load files (entries.map assignment) (some path) = .ok (given.insertAll entries) := by
  have readBase : base files (some path) = .ok given := read
  exact load_over_base readBase whole

/-- A file gives no key twice. -/
theorem distinct_ofFile {files : Files} {path : Path} {given : Bundle}
    (read : ofFile files path = .ok given) : (given.map Prod.fst).Nodup := by
  obtain ⟨octets, _, read⟩ := Result.bind_eq_ok_iff.mp read
  obtain ⟨document, _, read⟩ := Result.bind_eq_ok_iff.mp read
  unfold ofDocument at read
  split at read
  · cases read
  · split at read
    · cases read
    · cases read
      exact Entries.nodup_keys_ofList _

theorem distinct_base {files : Files} {file : Option Path} {given : Bundle}
    (read : base files file = .ok given) : (given.map Prod.fst).Nodup := by
  cases file with
  | some path => exact distinct_ofFile read
  | none =>
      cases read
      exact List.nodup_nil

end Bundle

end ShareProvisioner
