import ShareProvisioner.Proofs.CommandLine.Bundle

/-!
# Collecting options

An option without an equals sign has no value, and the first such option is what the whole list is
refused for.  Options that all have one are entries, each cut at the first sign in it, and are merged
with those of the file.  Entries that are written out as options are collected as they were.
-/

namespace ShareProvisioner.Bundle

/-- What comes of the entries of a file, if there is one, and of options. -/
inductive Collects (files : Files) (options : List Text) (file : Option Path) :
    Except Failure.Fault Bundle → Prop
  | unreadable {fault : Failure.Fault} (refused : base files file = .error fault) :
      Collects files options file (.error fault)
  | noValue {given : Bundle} {before after : List Text} {option : Text}
      (read : base files file = .ok given) (split : options = before ++ option :: after)
      (others : ∀ earlier ∈ before, CodePoint.char '=' ∈ earlier)
      (whole : CodePoint.char '=' ∉ option) :
      Collects files options file (.error (.noValue option))
  | merged {given loaded : Bundle} {entries : List (Text × Text)}
      (read : base files file = .ok given) (spelled : options = entries.map assignment)
      (whole : ∀ entry ∈ entries, CodePoint.char '=' ∉ entry.1)
      (merges : Entries.IsMerged (given ++ entries) loaded) :
      Collects files options file (.ok loaded)

variable {files : Files} {options : List Text} {file : Option Path}

/-! ## Options as entries -/

theorem entryOf_of_whole {option : Text} (whole : CodePoint.char '=' ∉ option) :
    entryOf option = .error (.noValue option) := by
  unfold entryOf
  rw [Text.cut?_of_not_mem whole]

theorem exists_assignment {option : Text} (parted : CodePoint.char '=' ∈ option) :
    ∃ entry : Text × Text, option = assignment entry ∧ CodePoint.char '=' ∉ entry.1 := by
  obtain ⟨key, value, cut, whole⟩ := List.eq_append_cons_of_mem parted
  exact ⟨(key, value), cut, whole⟩

theorem exists_assignments (parted : ∀ option ∈ options, CodePoint.char '=' ∈ option) :
    ∃ entries : List (Text × Text), options = entries.map assignment
      ∧ ∀ entry ∈ entries, CodePoint.char '=' ∉ entry.1 := by
  induction options with
  | nil => exact ⟨[], rfl, nofun⟩
  | cons option rest induction =>
      obtain ⟨optionParted, restParted⟩ := List.forall_mem_cons.mp parted
      obtain ⟨entry, spelled, whole⟩ := exists_assignment optionParted
      obtain ⟨entries, restSpelled, restWhole⟩ := induction restParted
      refine ⟨entry :: entries, ?_, List.forall_mem_cons.mpr ⟨whole, restWhole⟩⟩
      rw [List.map_cons, ← spelled, ← restSpelled]

/-- Either all options have a sign or there is a first one that has none. -/
theorem parted_or_firstWhole (options : List Text) :
    (∀ option ∈ options, CodePoint.char '=' ∈ option)
      ∨ ∃ before option after, options = before ++ option :: after
        ∧ (∀ earlier ∈ before, CodePoint.char '=' ∈ earlier) ∧ CodePoint.char '=' ∉ option := by
  cases found : options.find? fun option => decide (CodePoint.char '=' ∉ option) with
  | none =>
      refine .inl fun option member => ?_
      simpa using List.find?_eq_none.mp found option member
  | some option =>
      obtain ⟨whole, before, after, split, others⟩ := List.find?_eq_some_iff_append.mp found
      exact .inr ⟨before, option, after, split, by simpa using others, by simpa using whole⟩

/-! ## Loading -/

theorem addOptions_append (bundle : Bundle) (before after : List Text) :
    addOptions bundle (before ++ after) = addOptions bundle before >>= (addOptions · after) := by
  induction before generalizing bundle with
  | nil => rfl
  | cons option rest induction =>
      rw [List.cons_append, addOptions, addOptions]
      cases entryOf option with
      | ok entry => exact induction _
      | error fault => rfl

theorem addOptions_of_whole {before after : List Text} {option : Text}
    (others : ∀ earlier ∈ before, CodePoint.char '=' ∈ earlier)
    (whole : CodePoint.char '=' ∉ option) (bundle : Bundle) :
    addOptions bundle (before ++ option :: after) = .error (.noValue option) := by
  obtain ⟨entries, spelled, entriesWhole⟩ := exists_assignments others
  have refused : addOptions (bundle.insertAll entries) (option :: after)
      = .error (.noValue option) := by
    rw [addOptions, entryOf_of_whole whole]
  rw [addOptions_append, spelled, addOptions_assignments entriesWhole]
  exact refused

section Base

variable {given : Bundle}

theorem load_of_unreadable {fault : Failure.Fault} (refused : base files file = .error fault) :
    load files options file = .error fault := by
  rw [load_eq, refused]
  rfl

theorem load_of_whole {before after : List Text} {option : Text}
    (read : base files file = .ok given)
    (others : ∀ earlier ∈ before, CodePoint.char '=' ∈ earlier)
    (whole : CodePoint.char '=' ∉ option) :
    load files (before ++ option :: after) file = .error (.noValue option) := by
  rw [load_eq, read]
  exact addOptions_of_whole others whole given

theorem load_of_spelled {entries : List (Text × Text)} (read : base files file = .ok given)
    (whole : ∀ entry ∈ entries, CodePoint.char '=' ∉ entry.1) :
    load files (entries.map assignment) file = .ok (Entries.ofList (given ++ entries)) := by
  rw [load_over_base read whole, Entries.insertAll_eq_ofList (distinct_base read)]

end Base

theorem collects_load (files : Files) (options : List Text) (file : Option Path) :
    Collects files options file (load files options file) := by
  cases read : base files file with
  | error fault =>
      rw [load_of_unreadable read]
      exact .unreadable read
  | ok given =>
      cases parted_or_firstWhole options with
      | inl parted =>
          obtain ⟨entries, spelled, whole⟩ := exists_assignments parted
          rw [spelled, load_of_spelled read whole]
          exact .merged read rfl whole (Entries.isMerged_ofList _)
      | inr firstWhole =>
          obtain ⟨before, option, after, split, others, whole⟩ := firstWhole
          rw [split, load_of_whole read others whole]
          exact .noValue read rfl others whole

/-- The rules leave no choice. -/
theorem load_eq_of_collects {result : Except Failure.Fault Bundle}
    (collects : Collects files options file result) : load files options file = result := by
  cases collects with
  | unreadable refused => exact load_of_unreadable refused
  | noValue read split others whole => rw [split, load_of_whole read others whole]
  | merged read spelled whole merges =>
      rw [spelled, load_of_spelled read whole, Entries.ofList_eq_iff.mpr merges]

/-- What a file and options come to is just what is collected from them, and an option that is
refused is named.  Entries with distinct keys, none of which holds a sign, are collected from their
options alone as they stand, whatever their values hold. -/
theorem options_are_collected (files : Files) (options : List Text) (file : Option Path) :
    (∀ result, load files options file = result ↔ Collects files options file result)
      ∧ (∀ option, (Failure.Fault.noValue option).message
        = "Invalid parameter " ++ option.quoted ++ ", expected KEY=VALUE")
      ∧ ∀ entries : List (Text × Text), (entries.map Prod.fst).Nodup →
        (∀ entry ∈ entries, CodePoint.char '=' ∉ entry.1) →
        load files (entries.map assignment) none = .ok entries := by
  refine ⟨fun result => ⟨?_, load_eq_of_collects⟩, fun option => rfl, ?_⟩
  · intro same
    exact same ▸ collects_load files options file
  · intro entries distinct whole
    have noFile : base files none = .ok [] := rfl
    rw [load_of_spelled noFile whole, List.nil_append, Entries.ofList_of_nodup distinct]

/-- Values that hold signs and commas, and one that is empty. -/
theorem options_are_collected_sample :
    let entries : List (Text × Text) := [("monitors", "m1,m2=x=y"), ("cluster", ""), ("", "=")]
    let options : List Text := ["monitors=m1,m2=x=y", "cluster=", "=="]
    (entries.map Prod.fst).Nodup ∧ (∀ entry ∈ entries, CodePoint.char '=' ∉ entry.1)
      ∧ load {} options none = .ok entries := by
  intro entries options
  have distinct : (entries.map Prod.fst).Nodup := by decide
  have whole : ∀ entry ∈ entries, CodePoint.char '=' ∉ entry.1 := by decide
  have spelled : entries.map assignment = options := by decide
  have collected := (options_are_collected {} options none).2.2 entries distinct whole
  exact ⟨distinct, whole, spelled ▸ collected⟩

example : load {} (["b=1", "a=2", "b=3=4"].map Text.ofString) none
    = .ok [(Text.ofString "b", Text.ofString "3=4"), (Text.ofString "a", Text.ofString "2")] := by
  decide

end ShareProvisioner.Bundle
