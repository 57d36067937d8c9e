import Mathlib.Data.List.DropRight
import Mathlib.Data.List.Induction
import Mathlib.Data.List.Nodup
import ShareProvisioner.Proofs.Parameters
import ShareProvisioner.Proofs.Text.Case

/-!
# Documented parameters

Five keys are documented, and letter case does not tell keys apart.  A bundle of texts is accepted
exactly if it gives documented keys only and none of them twice, names a secret, and lists at least
one monitor.  The first key in order that is against this decides the refusal; what is missing
counts only where no key is.
-/

namespace ShareProvisioner

theorem Text.strip_eq_nil_iff {text : Text} :
    text.strip = [] ↔ ∀ codePoint ∈ text, codePoint.isBlank = true := by
  unfold strip trim trimRight
  rw [List.reverse_eq_nil_iff, List.dropWhile_eq_nil_iff]
  simp only [List.mem_reverse]
  rw [← List.dropWhile_eq_nil_iff, List.dropWhile_idempotent, List.dropWhile_eq_nil_iff]

namespace Parameters

/-! ## Documented bundles -/

def documentedKeys : List Text :=
  ["cluster", "monitors", "adminId", "adminSecretName", "adminSecretNamespace"].map Text.ofString

/-- Texts given under texts, in order. -/
def bundle (given : List (Text × Text)) : Mapping :=
  given.map fun (key, value) => (.text key, .text value)

/-- What is given, without regard to the case of the keys. -/
def folded (given : List (Text × Text)) : Entries Text Text :=
  given.map fun (key, value) => (key.foldCase, value)

def foldedKeys (given : List (Text × Text)) : List Text :=
  (folded given).map Prod.fst

/-- The value given under a key in any case; an absent one counts as empty. -/
def valueAt (given : List (Text × Text)) (key : Text) : Text :=
  ((folded given).find? key.foldCase).getD []

def IsKnown (key : Text) : Prop :=
  ∃ documented ∈ documentedKeys, key.foldCase = documented.foldCase

/-- Whether all keys are documented and no two are the same up to case. -/
structure IsClean (given : List (Text × Text)) : Prop where
  known : ∀ entry ∈ given, IsKnown entry.1
  distinct : (foldedKeys given).Nodup

/-- Whether a comma-separated list has a piece that is not just white space. -/
def ListsMonitor (value : Text) : Prop :=
  ∃ piece ∈ Text.pieces ',' value, ∃ codePoint ∈ piece, codePoint.isBlank = false

structure IsDocumented (given : List (Text × Text)) : Prop extends IsClean given where
  named : valueAt given "adminSecretName" ≠ []
  monitored : ListsMonitor (valueAt given "monitors")

def valueOr (given : List (Text × Text)) (key default : Text) : Text :=
  if valueAt given key = [] then default else valueAt given key

/-- What a documented bundle stands for. -/
def resolution (given : List (Text × Text)) : ClusterParameters where
  cluster := .text (valueOr given "cluster" "ceph")
  adminId := .text (valueOr given "adminId" "admin")
  monitors :=
    ((Text.pieces ',' (valueAt given "monitors")).filter (·.any (!·.isBlank))).map Text.strip
  secret := {
    namespaceName := .text (valueOr given "adminSecretNamespace" "default")
    name := .text (valueAt given "adminSecretName") }

/-- The causes for which a bundle is refused: that of the first key in order that is unknown or
repeated, and only if there is none that of a missing value. -/
inductive Refuses (given : List (Text × Text)) : Failure.Cause → Prop
  | unknown {before after : List (Text × Text)} {key value : Text}
      (split : given = before ++ (key, value) :: after) (clean : IsClean before)
      (unknown : ¬IsKnown key) : Refuses given (.unknownParameter key)
  | repeated {before after : List (Text × Text)} {key value : Text}
      (split : given = before ++ (key, value) :: after) (clean : IsClean before)
      (known : IsKnown key) (earlier : key.foldCase ∈ foldedKeys before) :
      Refuses given (.duplicateParameter key)
  | unnamed (clean : IsClean given) (empty : valueAt given "adminSecretName" = []) :
      Refuses given (.missingParameter "admin secret name")
  | unmonitored (clean : IsClean given) (named : valueAt given "adminSecretName" ≠ [])
      (unlisted : ¬ListsMonitor (valueAt given "monitors")) :
      Refuses given (.missingParameter "monitors")

/-! ## Keys -/

theorem names_eq_folded : names = documentedKeys.map Text.foldCase := by decide

theorem isUnmistakable_of_name {name : Text} (isName : name ∈ names) :
    ∀ letter ∈ name, letter.isUnmistakable = true := by
  have all : ∀ name ∈ names, ∀ letter ∈ name, letter.isUnmistakable = true := by decide
  exact all name isName

/-- Small letters tell exactly the documented keys. -/
theorem lower_mem_names_iff {key : Text} : key.lower ∈ names ↔ IsKnown key := by
  have spelled : key.lower ∈ names ↔ key.foldCase ∈ names := by
    constructor
    · intro isName
      rwa [(Text.lower_eq_iff (isUnmistakable_of_name isName)).mp rfl]
    · intro isName
      rwa [(Text.lower_eq_iff (isUnmistakable_of_name isName)).mpr rfl]
  rw [spelled, names_eq_folded, List.mem_map]
  simp only [IsKnown, eq_comm]

theorem IsKnown.lower_eq {key : Text} (known : IsKnown key) : key.lower = key.foldCase :=
  ((Text.lower_eq_iff (isUnmistakable_of_name (lower_mem_names_iff.mpr known))).mp rfl).symm

/-! ## One key after another -/

/-- Whether what has been seen are the values given so far. -/
def Reads (before : List (Text × Text)) (seen : Entries Text Json) : Prop :=
  ∀ name, seen.find? name = ((folded before).find? name).map .text

section Steps

variable {before : List (Text × Text)} {seen : Entries Text Json} {key value : Text}
  (rest : Mapping)

theorem Reads.find?_eq_none_iff (reads : Reads before seen) {name : Text} :
    seen.find? name = none ↔ name ∉ foldedKeys before := by
  rw [reads name, Option.map_eq_none_iff]
  constructor
  · intro absent member
    rcases List.mem_map.mp member with ⟨entry, isEntry, rfl⟩
    rcases Entries.exists_find?_of_mem isEntry with ⟨value, found⟩
    exact nomatch absent.symm.trans found
  · exact Entries.find?_eq_none

theorem normalize_unknown (unknown : ¬IsKnown key) :
    normalize seen ((.text key, .text value) :: rest)
      = .error (.declared (.unknownParameter key)) := by
  have absent : key.lower ∉ names := fun isName => unknown (lower_mem_names_iff.mp isName)
  rw [normalize]
  simp [absent]

theorem normalize_repeated (reads : Reads before seen) (known : IsKnown key)
    (earlier : key.foldCase ∈ foldedKeys before) :
    normalize seen ((.text key, .text value) :: rest)
      = .error (.declared (.duplicateParameter key)) := by
  have isName := lower_mem_names_iff.mpr known
  have present : (seen.find? key.lower).isSome = true := by
    rw [known.lower_eq, Option.isSome_iff_ne_none]
    exact fun absent => reads.find?_eq_none_iff.mp absent earlier
  rw [normalize]
  simp [isName, present]

theorem normalize_fresh (reads : Reads before seen) (known : IsKnown key)
    (fresh : key.foldCase ∉ foldedKeys before) :
    normalize seen ((.text key, .text value) :: rest)
      = normalize (seen.insert key.foldCase (.text value)) rest := by
  have isName := lower_mem_names_iff.mpr known
  have absent : (seen.find? key.lower).isSome = false := by
    rw [known.lower_eq, reads.find?_eq_none_iff.mpr fresh]
    rfl
  rw [normalize]
  simp [isName, absent]
  rw [known.lower_eq]

theorem Reads.insert (reads : Reads before seen) (fresh : key.foldCase ∉ foldedKeys before) :
    Reads (before ++ [(key, value)]) (seen.insert key.foldCase (.text value)) := by
  intro name
  have appended : folded (before ++ [(key, value)]) = folded before ++ [(key.foldCase, value)] :=
    List.map_append
  rw [appended, Entries.find?_insert, Entries.find?_append, Entries.find?_cons, reads name]
  by_cases same : key.foldCase == name
  · cases eq_of_beq same
    simp [Entries.find?_eq_none fresh]
  · simp [same]

end Steps

/-! ## Clean bundles -/

section Clean

variable {before rest given : List (Text × Text)} {key value : Text}

theorem foldedKeys_append (before rest : List (Text × Text)) :
    foldedKeys (before ++ rest) = foldedKeys before ++ foldedKeys rest := by
  simp [foldedKeys, folded]

theorem IsClean.append_singleton (clean : IsClean before) (known : IsKnown key)
    (fresh : key.foldCase ∉ foldedKeys before) : IsClean (before ++ [(key, value)]) where
  known := by
    intro entry member
    rcases List.mem_append.mp member with earlier | last
    · exact clean.known entry earlier
    · cases List.mem_singleton.mp last
      exact known
  distinct := by
    rw [foldedKeys_append]
    refine List.nodup_append.mpr ⟨clean.distinct, List.nodup_singleton _, ?_⟩
    intro name earlier last isLast same
    cases List.mem_singleton.mp isLast
    cases same
    exact fresh earlier

theorem IsClean.fresh (clean : IsClean (before ++ (key, value) :: rest)) :
    key.foldCase ∉ foldedKeys before := by
  have distinct := clean.distinct
  rw [foldedKeys_append] at distinct
  intro earlier
  exact (List.nodup_append.mp distinct).2.2 _ earlier _ List.mem_cons_self rfl

/-- Clean keys are read one after the other, whatever comes after them. -/
theorem normalize_of_clean {seen : Entries Text Json} (reads : Reads before seen)
    (clean : IsClean (before ++ rest)) (after : Mapping) :
    ∃ all, normalize seen (bundle rest ++ after) = normalize all after
      ∧ Reads (before ++ rest) all := by
  induction rest generalizing before seen with
  | nil => exact ⟨seen, rfl, by rwa [List.append_nil]⟩
  | cons entry rest induction =>
      rcases entry with ⟨key, value⟩
      have known : IsKnown key := clean.known (key, value) (by simp)
      have fresh := clean.fresh
      rw [List.append_cons] at clean ⊢
      rcases induction (reads.insert fresh) clean with ⟨all, goesOn, readsAll⟩
      exact ⟨all, (normalize_fresh _ reads known fresh).trans goesOn, readsAll⟩

theorem reads_nil : Reads [] [] := fun _ => rfl

/-- A bundle that is not clean has a first key that is unknown or repeated. -/
theorem isClean_or_refuses (given : List (Text × Text)) :
    IsClean given ∨ ∃ before key value after, given = before ++ (key, value) :: after
      ∧ IsClean before ∧ (¬IsKnown key ∨ IsKnown key ∧ key.foldCase ∈ foldedKeys before) := by
  induction given using List.reverseRecOn with
  | nil => exact .inl ⟨nofun, List.nodup_nil⟩
  | append_singleton before entry induction =>
      rcases entry with ⟨key, value⟩
      rcases induction with clean | ⟨first, other, otherValue, between, rfl, clean, offends⟩
      · by_cases known : IsKnown key
        · by_cases earlier : key.foldCase ∈ foldedKeys before
          · exact .inr ⟨before, key, value, [], rfl, clean, .inr ⟨known, earlier⟩⟩
          · exact .inl (clean.append_singleton known earlier)
        · exact .inr ⟨before, key, value, [], rfl, clean, .inl known⟩
      · exact .inr ⟨first, other, otherValue, between ++ [(key, value)], by simp, clean, offends⟩

end Clean

/-! ## Whole bundles -/

section Bundles

variable {given : List (Text × Text)}

theorem valueOf_eq_valueAt {all : Entries Text Json} (reads : Reads given all) (key : Text) :
    valueOf all key.foldCase = .text (valueAt given key) := by
  unfold valueOf valueAt
  rw [reads]
  cases (folded given).find? key.foldCase <;> rfl

theorem orElse_text (value default : Text) :
    (Json.text value).orElse (.text default) = .text (if value = [] then default else value) := by
  cases value <;> rfl

/-- The monitors are the pieces that are not just white space, without the white space around
them. -/
theorem monitors_eq (value : Text) :
    monitors value
      = ((Text.pieces ',' value).filter (·.any (!·.isBlank))).map Text.strip := by
  have marked : (fun text : Text => !text.isEmpty) ∘ Text.strip = (·.any (!·.isBlank)) := by
    funext piece
    rw [Bool.eq_iff_iff]
    simp [Text.strip_eq_nil_iff]
  rw [monitors, List.filter_map, marked]

theorem listsMonitor_iff {value : Text} : ListsMonitor value ↔ monitors value ≠ [] := by
  simp [monitors_eq, ListsMonitor, List.filter_eq_nil_iff]

theorem exists_normalized (clean : IsClean given) :
    ∃ all, normalize [] (bundle given) = .ok all ∧ Reads given all := by
  rcases normalize_of_clean reads_nil clean [] with ⟨all, goesOn, reads⟩
  rw [List.append_nil] at goesOn
  exact ⟨all, goesOn, reads⟩

theorem resolved_eq_resolution {all : Entries Text Json} (reads : Reads given all) :
    resolved all (monitors (valueAt given "monitors")) = resolution given := by
  have value := valueOf_eq_valueAt reads
  have cluster : valueOf all "cluster" = _ := value "cluster"
  have adminId : valueOf all "adminid" = _ := value "adminId"
  have secretName : valueOf all "adminsecretname" = _ := value "adminSecretName"
  have secretNamespace : valueOf all "adminsecretnamespace" = _ := value "adminSecretNamespace"
  rw [resolved, cluster, adminId, secretName, secretNamespace, orElse_text, orElse_text,
    orElse_text, monitors_eq]
  rfl

/-- Where no key is at fault, the values that are required decide. -/
theorem resolve_of_clean (clean : IsClean given) :
    resolve (bundle given)
      = if valueAt given "adminSecretName" = [] then
          .error (.declared (.missingParameter "admin secret name"))
        else if monitors (valueAt given "monitors") = [] then
          .error (.declared (.missingParameter "monitors"))
        else .ok (resolution given) := by
  rcases exists_normalized clean with ⟨all, normalized, reads⟩
  have secretName : valueOf all "adminsecretname" = _ := valueOf_eq_valueAt reads "adminSecretName"
  have monitorList : valueOf all "monitors" = _ := valueOf_eq_valueAt reads "monitors"
  have course := resolve_course (bundle given)
  generalize resolve (bundle given) = outcome at course
  cases course with
  | misnamed refused => exact nomatch normalized.symm.trans refused
  | secretless other falsy =>
      cases normalized.symm.trans other
      rw [secretName] at falsy
      rw [if_pos (by simpa using falsy)]
  | unlisted other refused =>
      cases normalized.symm.trans other
      rw [monitorList] at refused
      cases refused
  | monitorless other truthy listed =>
      cases normalized.symm.trans other
      rw [secretName] at truthy
      rw [monitorList] at listed
      rw [if_neg (by simpa using truthy), if_pos (Except.ok.inj listed)]
  | accepted other truthy listed nonempty =>
      cases normalized.symm.trans other
      rw [secretName] at truthy
      rw [monitorList] at listed
      cases listed
      rw [if_neg (by simpa using truthy), if_neg nonempty, resolved_eq_resolution reads]

theorem normalize_of_split {before after : List (Text × Text)} {key value : Text}
    (split : given = before ++ (key, value) :: after) (clean : IsClean before) :
    ∃ seen, Reads before seen ∧ normalize [] (bundle given)
      = normalize seen ((.text key, .text value) :: bundle after) := by
  rcases normalize_of_clean reads_nil clean (bundle ((key, value) :: after)) with
    ⟨seen, goesOn, reads⟩
  refine ⟨seen, reads, ?_⟩
  rw [split, bundle, List.map_append]
  exact goesOn

theorem resolve_of_misnamed {failure : Failure}
    (refused : normalize [] (bundle given) = .error failure) :
    resolve (bundle given) = .error failure := by
  unfold resolve
  rw [refused]
  rfl

theorem resolve_of_refuses {cause : Failure.Cause} (refuses : Refuses given cause) :
    resolve (bundle given) = .error (.declared cause) := by
  cases refuses with
  | unknown split clean unknown =>
      rcases normalize_of_split split clean with ⟨seen, _, goesOn⟩
      exact resolve_of_misnamed (goesOn.trans (normalize_unknown _ unknown))
  | repeated split clean known earlier =>
      rcases normalize_of_split split clean with ⟨seen, reads, goesOn⟩
      exact resolve_of_misnamed (goesOn.trans (normalize_repeated _ reads known earlier))
  | unnamed clean empty => rw [resolve_of_clean clean, if_pos empty]
  | unmonitored clean named unlisted =>
      rw [listsMonitor_iff, not_not] at unlisted
      rw [resolve_of_clean clean, if_neg named, if_pos unlisted]

theorem resolve_of_isDocumented (documented : IsDocumented given) :
    resolve (bundle given) = .ok (resolution given) := by
  rw [resolve_of_clean documented.toIsClean, if_neg documented.named,
    if_neg (listsMonitor_iff.mp documented.monitored)]

theorem isDocumented_or_refuses (given : List (Text × Text)) :
    IsDocumented given ∨ ∃ cause, Refuses given cause := by
  rcases isClean_or_refuses given with
    clean | ⟨before, key, value, after, split, clean, unknown | ⟨known, earlier⟩⟩
  · by_cases empty : valueAt given "adminSecretName" = []
    · exact .inr ⟨_, .unnamed clean empty⟩
    · by_cases listed : ListsMonitor (valueAt given "monitors")
      · exact .inl ⟨clean, empty, listed⟩
      · exact .inr ⟨_, .unmonitored clean empty listed⟩
  · exact .inr ⟨_, .unknown split clean unknown⟩
  · exact .inr ⟨_, .repeated split clean known earlier⟩

/-! ### Rearranged bundles -/

theorem IsClean.of_perm {other : List (Text × Text)} (clean : IsClean given)
    (rearranged : (folded given).Perm (folded other)) : IsClean other where
  known := by
    intro entry member
    have isFolded : (entry.1.foldCase, entry.2) ∈ folded given :=
      rearranged.mem_iff.mpr (List.mem_map.mpr ⟨entry, member, rfl⟩)
    rcases List.mem_map.mp isFolded with ⟨original, isOriginal, same⟩
    rcases clean.known original isOriginal with ⟨documented, isDocumented, spelled⟩
    exact ⟨documented, isDocumented, (congrArg Prod.fst same).symm.trans spelled⟩
  distinct := (rearranged.map Prod.fst).nodup_iff.mp clean.distinct

theorem valueAt_of_perm {other : List (Text × Text)} (clean : IsClean given)
    (rearranged : (folded given).Perm (folded other)) : valueAt other = valueAt given := by
  funext key
  unfold valueAt
  rw [Entries.find?_of_perm rearranged clean.distinct]

end Bundles

/-- A bundle of texts is accepted exactly if it is documented, and stands for what is documented
then, whatever the order of its keys and their case.  Otherwise it is refused for the first key
that is unknown or repeated and, if there is none, for what is missing. -/
theorem resolve_accepts_documented (given : List (Text × Text)) :
    ((∃ result, resolve (bundle given) = .ok result) ↔ IsDocumented given)
      ∧ (∀ result, resolve (bundle given) = .ok result → result = resolution given
          ∧ ∀ other, (folded given).Perm (folded other) → resolve (bundle other) = .ok result)
      ∧ (∀ failure, resolve (bundle given) = .error failure
          ↔ ∃ cause, failure = .declared cause ∧ Refuses given cause) := by
  have documented_of_ok {result : ClusterParameters}
      (accepted : resolve (bundle given) = .ok result) : IsDocumented given := by
    rcases isDocumented_or_refuses given with documented | ⟨cause, refuses⟩
    · exact documented
    · exact nomatch accepted.symm.trans (resolve_of_refuses refuses)
  refine ⟨⟨fun ⟨_, accepted⟩ => documented_of_ok accepted,
    fun documented => ⟨_, resolve_of_isDocumented documented⟩⟩, ?_, ?_⟩
  · intro result accepted
    have documented := documented_of_ok accepted
    cases accepted.symm.trans (resolve_of_isDocumented documented)
    refine ⟨rfl, fun other rearranged => ?_⟩
    have values := valueAt_of_perm documented.toIsClean rearranged
    have otherDocumented : IsDocumented other :=
      { documented.toIsClean.of_perm rearranged with
        named := values ▸ documented.named
        monitored := values ▸ documented.monitored }
    have same : resolution other = resolution given := by simp only [resolution, valueOr, values]
    rw [resolve_of_isDocumented otherDocumented, same]
  · intro failure
    constructor
    · intro refused
      rcases isDocumented_or_refuses given with documented | ⟨cause, refuses⟩
      · exact nomatch refused.symm.trans (resolve_of_isDocumented documented)
      · exact ⟨cause, Except.error.inj (refused.symm.trans (resolve_of_refuses refuses)), refuses⟩
    · rintro ⟨cause, rfl, refuses⟩
      exact resolve_of_refuses refuses

end Parameters

end ShareProvisioner
