import ShareProvisioner.Proofs.CommandLine.Bundle

/-!
# Options over a file

Options replace what a file says key by key, and a key is compared as it is spelled.  Parameters
are compared without regard to case.  So an option overrides the file where it spells a parameter
as the file does; where it does not, the parameter is given twice and the bundle is refused.
-/

namespace ShareProvisioner

namespace Parameters

theorem IsKnown.foldCase_mem_names {key : Text} (known : IsKnown key) : key.foldCase ∈ names := by
  obtain ⟨documented, isDocumented, same⟩ := known
  rw [names_eq_folded, same]
  exact List.mem_map_of_mem isDocumented

theorem IsKnown.foldCase {key : Text} (known : IsKnown key) :
    key.foldCase.foldCase = key.foldCase := by
  have folded : ∀ name ∈ names, name.foldCase = name := by decide
  exact folded _ known.foldCase_mem_names

theorem IsKnown.whole {key : Text} (known : IsKnown key) : CodePoint.char '=' ∉ key := by
  intro inKey
  have whole : ∀ name ∈ names, CodePoint.char '=' ∉ name := by decide
  exact whole _ known.foldCase_mem_names (List.mem_map_of_mem inKey)

section Folded

variable {given other : List (Text × Text)}

theorem folded_append (given other : List (Text × Text)) :
    folded (given ++ other) = folded given ++ folded other := List.map_append

theorem foldedKeys_eq (given : List (Text × Text)) :
    foldedKeys given = (given.map Prod.fst).map Text.foldCase := by
  simp [foldedKeys, folded]

theorem IsClean.of_keys (clean : IsClean given) (same : other.map Prod.fst = given.map Prod.fst) :
    IsClean other where
  known entry member := by
    have isKey : entry.1 ∈ given.map Prod.fst := same ▸ List.mem_map_of_mem member
    obtain ⟨original, isOriginal, equal⟩ := List.mem_map.mp isKey
    exact equal ▸ clean.known original isOriginal
  distinct := by
    rw [foldedKeys_eq, same, ← foldedKeys_eq]
    exact clean.distinct

theorem IsClean.folded_folded (clean : IsClean given) : folded (folded given) = folded given := by
  unfold folded
  rw [List.map_map]
  apply List.map_congr_left
  intro entry member
  exact Prod.ext (clean.known entry member).foldCase rfl

/-- To spell parameters in small letters makes no difference. -/
theorem resolve_folded (clean : IsClean given) :
    resolve (bundle (folded given)) = resolve (bundle given) := by
  have again := clean.folded_folded
  have foldedClean : IsClean (folded given) := clean.of_perm (List.Perm.of_eq again.symm)
  have values : valueAt (folded given) = valueAt given := by
    funext key
    rw [valueAt, again, valueAt]
  have stands : resolution (folded given) = resolution given := by
    simp only [resolution, valueOr, values]
  rw [resolve_of_clean foldedClean, resolve_of_clean clean, values, stands]

end Folded

end Parameters

namespace Bundle

open Parameters (IsKnown IsClean folded foldedKeys bundle)

/-- The parameters of a file, without regard to case, with each one that options name replaced
by the value of the last option that names it. -/
def overridden (given options : List (Text × Text)) : List (Text × Text) :=
  Entries.insertAll (folded given) (folded options)

/-- Whether no parameter is spelled in two ways. -/
def SpelledAlike (entries : List (Text × Text)) : Prop :=
  ∀ one ∈ entries, ∀ another ∈ entries, one.1.foldCase = another.1.foldCase → one.1 = another.1

/-- Whether an option is the first to spell a parameter otherwise than it was spelled before. -/
inductive FirstRespelled (given options : List (Text × Text)) (key : Text) : Prop
  | intro {before after : List (Text × Text)} {value : Text} {earlier : Text × Text}
      (split : options = before ++ (key, value) :: after) (alike : SpelledAlike (given ++ before))
      (isEarlier : earlier ∈ given ++ before) (same : earlier.1.foldCase = key.foldCase)
      (respelled : earlier.1 ≠ key)

variable {given options : List (Text × Text)} {key value : Text}

/-! ## Spelled alike -/

theorem SpelledAlike.of_subset {entries others : List (Text × Text)} (alike : SpelledAlike entries)
    (subset : others ⊆ entries) : SpelledAlike others :=
  fun one isOne another isAnother => alike one (subset isOne) another (subset isAnother)

/-- Clean entries give each parameter once, so they spell it in one way. -/
theorem spelledAlike_of_isClean (clean : IsClean given) : SpelledAlike given := by
  intro one isOne another isAnother same
  have distinct := clean.distinct
  rw [foldedKeys, folded, List.map_map] at distinct
  rw [List.inj_on_of_nodup_map distinct isOne isAnother same]

theorem folded_insert (alike : ∀ entry ∈ given, entry.1.foldCase = key.foldCase → entry.1 = key)
    (value : Text) :
    folded (Entries.insert given key value)
      = Entries.insert (folded given) key.foldCase value := by
  induction given with
  | nil => rfl
  | cons entry rest induction =>
      have others := induction fun other member => alike other (List.mem_cons_of_mem _ member)
      unfold folded at others ⊢
      rw [List.map_cons]
      unfold Entries.insert
      by_cases same : entry.1 = key
      · rw [if_pos (beq_iff_eq.mpr same), if_pos (beq_iff_eq.mpr (same ▸ rfl))]
        rfl
      · have different : entry.1.foldCase ≠ key.foldCase := fun equal =>
          same (alike entry List.mem_cons_self equal)
        rw [if_neg (mt beq_iff_eq.mp same), if_neg (mt beq_iff_eq.mp different), List.map_cons,
          others]

/-- Where each parameter is spelled in one way, its spelling is of no account. -/
theorem folded_insertAll (alike : SpelledAlike (given ++ options)) :
    folded (Entries.insertAll given options) = overridden given options := by
  unfold overridden
  induction options using List.reverseRecOn with
  | nil => rfl
  | append_singleton options option induction =>
      rw [← List.append_assoc] at alike
      have earlier := induction (alike.of_subset (List.subset_append_left _ _))
      have isLast : option ∈ given ++ options ++ [option] := by simp
      have optionAlike : ∀ entry ∈ Entries.insertAll given options,
          entry.1.foldCase = option.1.foldCase → entry.1 = option.1 := by
        intro entry member same
        have isKey := Entries.mem_keys_insertAll_iff.mp (List.mem_map_of_mem member)
        obtain ⟨original, isOriginal, equal⟩ := List.mem_map.mp isKey
        rw [← equal] at same ⊢
        exact alike original (List.mem_append_left _ isOriginal) option isLast same
      rw [Entries.insertAll_concat, folded_insert optionAlike, earlier, Parameters.folded_append]
      exact (Entries.insertAll_concat _ _ (option.1.foldCase, option.2)).symm

theorem isClean_insertAll (clean : IsClean given) (known : ∀ option ∈ options, IsKnown option.1)
    (alike : SpelledAlike (given ++ options)) : IsClean (Entries.insertAll given options) where
  known entry member := by
    have isKey := Entries.mem_keys_insertAll_iff.mp (List.mem_map_of_mem member)
    obtain ⟨original, isOriginal, equal⟩ := List.mem_map.mp isKey
    rw [← equal]
    cases List.mem_append.mp isOriginal with
    | inl isGiven => exact clean.known original isGiven
    | inr isOption => exact known original isOption
  distinct := by
    rw [foldedKeys, folded_insertAll alike]
    exact Entries.nodup_keys_insertAll clean.distinct _

/-! ## Spelled otherwise -/

theorem SpelledAlike.concat {entries : List (Text × Text)} {entry : Text × Text}
    (alike : SpelledAlike entries)
    (fits : ∀ earlier ∈ entries, earlier.1.foldCase = entry.1.foldCase → earlier.1 = entry.1) :
    SpelledAlike (entries ++ [entry]) := by
  intro one isOne another isAnother same
  rw [List.mem_append, List.mem_singleton] at isOne isAnother
  cases isOne with
  | inl oneEarlier =>
      cases isAnother with
      | inl anotherEarlier => exact alike one oneEarlier another anotherEarlier same
      | inr isLast =>
          rw [isLast] at same ⊢
          exact fits one oneEarlier same
  | inr isLast =>
      rw [isLast] at same ⊢
      cases isAnother with
      | inl anotherEarlier => exact (fits another anotherEarlier same.symm).symm
      | inr alsoLast => rw [alsoLast]

/-- Either all spell alike or some option is the first that does not. -/
theorem spelledAlike_or_respelled (clean : IsClean given) (options : List (Text × Text)) :
    SpelledAlike (given ++ options) ∨ ∃ key, FirstRespelled given options key := by
  induction options using List.reverseRecOn with
  | nil =>
      rw [List.append_nil]
      exact .inl (spelledAlike_of_isClean clean)
  | append_singleton options option induction =>
      cases induction with
      | inr respelled =>
          obtain ⟨key, respelled⟩ := respelled
          obtain @⟨before, after, value, earlier, split, alike, isEarlier, same, different⟩ :=
            respelled
          have longer : options ++ [option] = before ++ (key, value) :: (after ++ [option]) := by
            simp [split]
          exact .inr ⟨key, .intro longer alike isEarlier same different⟩
      | inl alike =>
          by_cases fits : ∀ earlier ∈ given ++ options,
              earlier.1.foldCase = option.1.foldCase → earlier.1 = option.1
          · rw [← List.append_assoc]
            exact .inl (alike.concat fits)
          · simp only [not_forall] at fits
            obtain ⟨earlier, isEarlier, same, different⟩ := fits
            exact .inr ⟨option.1, .intro rfl alike isEarlier same different⟩

/-- A parameter that is spelled in a second way is given twice. -/
theorem refuses_of_firstRespelled (clean : IsClean given)
    (known : ∀ option ∈ options, IsKnown option.1) (respelled : FirstRespelled given options key) :
    Parameters.Refuses (Entries.insertAll given options) (.duplicateParameter key) := by
  obtain @⟨before, after, value, earlier, split, alike, isEarlier, same, different⟩ := respelled
  have isOption : (key, value) ∈ options := split ▸ by simp
  have knownBefore : ∀ option ∈ before, IsKnown option.1 := by
    intro option member
    exact known option (split ▸ List.mem_append_left _ member)
  have baseClean := isClean_insertAll clean knownBefore alike
  have keys : ∀ entry ∈ given ++ before,
      entry.1 ∈ (Entries.insertAll given before).map Prod.fst := by
    intro entry member
    exact Entries.mem_keys_insertAll_iff.mpr (List.mem_map_of_mem member)
  have new : key ∉ (Entries.insertAll given before).map Prod.fst := by
    intro present
    obtain ⟨entry, member, isKey⟩ := List.mem_map.mp (Entries.mem_keys_insertAll_iff.mp present)
    apply different
    rw [← isKey] at same ⊢
    exact alike earlier isEarlier entry member same
  -- The key goes to the end, and from there on nothing before it changes but values.
  have written : Entries.insertAll given options
      = Entries.insertAll (Entries.insert (Entries.insertAll given before) key value) after := by
    rw [split, List.append_cons, Entries.insertAll_append, Entries.insertAll_concat]
  have placed := Entries.keys_prefix_insertAll
    (Entries.insert (Entries.insertAll given before) key value) after
  rw [Entries.keys_insert_of_not_mem new, ← written] at placed
  obtain ⟨rest, placed⟩ := placed
  rw [List.append_assoc, List.singleton_append] at placed
  obtain ⟨front, back, loaded, frontKeys, backKeys⟩ := List.map_eq_append_iff.mp placed.symm
  obtain ⟨⟨lastKey, last⟩, behind, isBack, isKey, -⟩ := List.map_eq_cons_iff.mp backKeys
  rw [isBack, show lastKey = key from isKey] at loaded
  have frontClean : IsClean front := baseClean.of_keys frontKeys
  have repeated : key.foldCase ∈ foldedKeys front := by
    rw [Parameters.foldedKeys_eq, frontKeys, ← same]
    exact List.mem_map_of_mem (keys earlier isEarlier)
  exact .repeated loaded frontClean (known _ isOption) repeated

/-! ## Loaded bundles -/

/-- Options for known parameters override an accepted file, each the spelling under which it
gives a value.  As long as no parameter is spelled in two ways that is to override the parameter;
otherwise the first option that spells one anew is refused as a repetition. -/
theorem options_override_spellings {files : Files} {path : Path} {given : Bundle}
    (read : ofFile files path = .ok given)
    (accepted : ∃ parameters, Parameters.resolve (.ofTexts given) = .ok parameters)
    (options : List (Text × Text)) (known : ∀ option ∈ options, IsKnown option.1) :
    ∃ loaded, load files (options.map assignment) (some path) = .ok loaded
      ∧ (SpelledAlike (given ++ options) → Parameters.resolve (.ofTexts loaded)
          = Parameters.resolve (.ofTexts (overridden given options)))
      ∧ (¬SpelledAlike (given ++ options) → ∃ key, FirstRespelled given options key
          ∧ Parameters.resolve (.ofTexts loaded)
            = .error (.declared (.duplicateParameter key))) := by
  have distinct := distinct_ofFile read
  have clean : IsClean given := by
    rw [Mapping.ofTexts_of_distinct distinct] at accepted
    obtain ⟨parameters, accepted⟩ := accepted
    cases Parameters.isDocumented_or_refuses given with
    | inl documented => exact documented.toIsClean
    | inr refused =>
        obtain ⟨cause, refuses⟩ := refused
        exact nomatch accepted.symm.trans (Parameters.resolve_of_refuses refuses)
  have loadedDistinct := Entries.nodup_keys_insertAll distinct options
  refine ⟨Entries.insertAll given options,
    load_assignments read fun option member => (known option member).whole, ?_, ?_⟩
  · intro alike
    have loadedClean := isClean_insertAll clean known alike
    have foldedDistinct : ((overridden given options).map Prod.fst).Nodup :=
      Entries.nodup_keys_insertAll clean.distinct _
    rw [Mapping.ofTexts_of_distinct loadedDistinct, Mapping.ofTexts_of_distinct foldedDistinct,
      ← folded_insertAll alike, Parameters.resolve_folded loadedClean]
  · intro otherwise
    obtain ⟨key, respelled⟩ := (spelledAlike_or_respelled clean options).resolve_left otherwise
    rw [Mapping.ofTexts_of_distinct loadedDistinct]
    exact ⟨key, respelled,
      Parameters.resolve_of_refuses (refuses_of_firstRespelled clean known respelled)⟩

/-- An option that spells a parameter as the file does, and one for a parameter that the file
leaves out. -/
theorem options_override_spellings_sample :
    let document := "\x7b\"monitors\":\"m1\",\"adminSecretName\":\"s\"\x7d"
    let files : Files := { contents := [(["p.json"], Utf8.ofString document)] }
    let given : Bundle := [("monitors", "m1"), ("adminSecretName", "s")]
    let options : List (Text × Text) := [("adminId", "me"), ("monitors", "m2")]
    SpelledAlike (given ++ options) ∧ ∃ loaded,
      load files (options.map assignment) (some (Path.ofText (Text.ofString "p.json"))) = .ok loaded
        ∧ Parameters.resolve (.ofTexts loaded)
          = Parameters.resolve (.ofTexts (overridden given options)) := by
  intro document files given options
  have read : ofFile files (Path.ofText (Text.ofString "p.json")) = .ok given := by decide +kernel
  have accepted : Parameters.resolve (.ofTexts given) = .ok {
      cluster := .text "ceph"
      adminId := .text "admin"
      monitors := ["m1"]
      secret := ⟨.text "default", .text "s"⟩ } := by
    decide +kernel
  have known : ∀ option ∈ options, IsKnown option.1 := by
    unfold IsKnown
    decide +kernel
  have alike : SpelledAlike (given ++ options) := by
    unfold SpelledAlike
    decide +kernel
  obtain ⟨loaded, isLoaded, overrides, _⟩ :=
    options_override_spellings read ⟨_, accepted⟩ options known
  exact ⟨alike, loaded, isLoaded, overrides alike⟩

/-- In capitals the option is refused as a repetition, where to override the file would give the
monitor `m2`. -/
theorem respelled_option_refused :
    let document := "\x7b\"monitors\":\"m1\",\"adminSecretName\":\"s\"\x7d"
    let files : Files := { contents := [(["p.json"], Utf8.ofString document)] }
    let path := Path.ofText (Text.ofString "p.json")
    let given : Bundle := [("monitors", "m1"), ("adminSecretName", "s")]
    let options : List (Text × Text) := [("MONITORS", "m2")]
    let loaded : Bundle := given ++ options
    ofFile files path = .ok given
      ∧ load files (options.map assignment) (some path) = .ok loaded
      ∧ Parameters.resolve (.ofTexts loaded)
        = .error (.declared (.duplicateParameter "MONITORS"))
      ∧ Parameters.resolve (.ofTexts (overridden given options)) = .ok {
        cluster := .text "ceph"
        adminId := .text "admin"
        monitors := ["m2"]
        secret := ⟨.text "default", .text "s"⟩ } := by
  decide +kernel

end Bundle

end ShareProvisioner
