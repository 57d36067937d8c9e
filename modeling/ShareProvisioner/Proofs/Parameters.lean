import ShareProvisioner.Parameters
import ShareProvisioner.Proofs.Failure.Result
import ShareProvisioner.Proofs.Json.Content
import ShareProvisioner.Proofs.Mapping
import ShareProvisioner.Proofs.Text.Plain

/-!
# Accepted parameters

An accepted bundle gives each known name at most once, so what it is resolved to depends
on what is found at each of its keys and on nothing else.
-/

namespace ShareProvisioner

theorem Key.eq_text_of_beq {key : Key} {name : Text} (same : (key == Key.text name) = true) :
    key = .text name := by
  have canonical : key.canonical = .text name := of_decide_eq_true same
  cases key with
  | text value => exact canonical
  | float value =>
      cases whole : wholeValue? value with
      | none => simp [Key.canonical, whole] at canonical
      | some integer => simp [Key.canonical, whole] at canonical
  | _ => cases canonical

/-- Whether all keys and values of a mapping are texts, the values plain ones. -/
def Mapping.HoldsPlainTexts (mapping : Mapping) : Prop :=
  ∀ entry ∈ mapping, ∃ key value : Text, entry = (.text key, .text value) ∧ value.IsPlain

namespace Parameters

section Normalize

variable {parameters : Mapping} {given : Entries Text Json}

theorem exists_spelling_cons {key : Text} {other value : Json} {rest : Mapping} {name : Text} :
    (∃ spelling : Text, (Key.text spelling, value) ∈ (Key.text key, other) :: rest
        ∧ spelling.lower = name)
      ↔ (key.lower = name ∧ other = value)
        ∨ ∃ spelling : Text, (Key.text spelling, value) ∈ rest ∧ spelling.lower = name := by
  constructor
  · rintro ⟨spelling, member, isName⟩
    rcases List.mem_cons.mp member with equal | inRest
    · cases equal
      exact .inl ⟨isName, rfl⟩
    · exact .inr ⟨spelling, inRest, isName⟩
  · rintro (⟨isName, rfl⟩ | ⟨spelling, inRest, isName⟩)
    · exact ⟨key, by simp, isName⟩
    · exact ⟨spelling, List.mem_cons_of_mem _ inRest, isName⟩

/-- What an accepted bundle gives under a name is what it gives under some spelling of
that name. -/
theorem find?_normalize {seen : Entries Text Json}
    (normalized : normalize seen parameters = .ok given) (name : Text) (value : Json) :
    given.find? name = some value
      ↔ seen.find? name = some value
        ∨ ∃ key : Text, (Key.text key, value) ∈ parameters ∧ key.lower = name := by
  induction parameters generalizing seen with
  | nil =>
      cases normalized
      simp
  | cons entry rest induction =>
      rcases entry with ⟨key, other⟩
      cases key with
      | text key =>
          unfold normalize at normalized
          dsimp only at normalized
          split at normalized
          · cases normalized
          · split at normalized
            · cases normalized
            · next unseen =>
                -- An unseen name can be found only if it is given from here on.
                have absent : seen.find? key.lower = none := by simpa using unseen
                rw [induction normalized, Entries.find?_insert, exists_spelling_cons]
                by_cases same : key.lower = name
                · subst same
                  simp [absent]
                · simp [same]
      | _ => cases normalized

/-- An accepted bundle gives no key twice. -/
theorem find?_of_mem (normalized : normalize [] parameters = .ok given) {key : Text}
    {value : Json} (member : (Key.text key, value) ∈ parameters) :
    parameters.find? (.text key) = some value := by
  rcases Entries.exists_find?_of_mem member with ⟨other, found⟩
  rcases Entries.mem_of_find? found with ⟨present, same, otherMember⟩
  cases Key.eq_text_of_beq same
  have one := (find?_normalize normalized key.lower value).mpr (.inr ⟨key, member, rfl⟩)
  have another := (find?_normalize normalized key.lower other).mpr (.inr ⟨key, otherMember, rfl⟩)
  rw [found, ← another, one]

theorem find?_normalize_iff (normalized : normalize [] parameters = .ok given) (name : Text)
    (value : Json) :
    given.find? name = some value
      ↔ ∃ key : Text, parameters.find? (.text key) = some value ∧ key.lower = name := by
  rw [find?_normalize normalized]
  constructor
  · rintro (nothing | ⟨key, member, isName⟩)
    · cases nothing
    · exact ⟨key, find?_of_mem normalized member, isName⟩
  · rintro ⟨key, found, isName⟩
    rcases Entries.mem_of_find? found with ⟨present, same, member⟩
    cases Key.eq_text_of_beq same
    exact .inr ⟨key, member, isName⟩

end Normalize

def valueOf (given : Entries Text Json) (name : Text) : Json :=
  (given.find? name).getD (.text [])

def resolved (given : Entries Text Json) (found : List Text) : ClusterParameters where
  cluster := (valueOf given "cluster").orElse (.text "ceph")
  adminId := (valueOf given "adminid").orElse (.text "admin")
  monitors := found
  secret := {
    namespaceName := (valueOf given "adminsecretnamespace").orElse (.text "default")
    name := valueOf given "adminsecretname" }

/-- How a bundle is checked: with which result. -/
inductive ResolveCourse (parameters : Mapping) : Except Failure ClusterParameters → Prop
  | misnamed {failure} (refused : normalize [] parameters = .error failure) :
      ResolveCourse parameters (.error failure)
  | secretless {given} (normalized : normalize [] parameters = .ok given)
      (empty : (valueOf given "adminsecretname").isTruthy = false) :
      ResolveCourse parameters (.error (.declared (.missingParameter "admin secret name")))
  | unlisted {given failure} (normalized : normalize [] parameters = .ok given)
      (refused : monitorsOf (valueOf given "monitors") = .error failure) :
      ResolveCourse parameters (.error failure)
  | monitorless {given} (normalized : normalize [] parameters = .ok given)
      (truthy : (valueOf given "adminsecretname").isTruthy = true)
      (listed : monitorsOf (valueOf given "monitors") = .ok []) :
      ResolveCourse parameters (.error (.declared (.missingParameter "monitors")))
  | accepted {given found} (normalized : normalize [] parameters = .ok given)
      (truthy : (valueOf given "adminsecretname").isTruthy = true)
      (listed : monitorsOf (valueOf given "monitors") = .ok found) (nonempty : found ≠ []) :
      ResolveCourse parameters (.ok (resolved given found))

theorem resolve_course (parameters : Mapping) :
    ResolveCourse parameters (resolve parameters) := by
  unfold resolve
  cases normalized : normalize [] parameters with
  | error failure => exact .misnamed normalized
  | ok given =>
      have secretName : (given.find? "adminsecretname").getD (.text [])
        = valueOf given "adminsecretname" := rfl
      have monitors : (given.find? "monitors").getD (.text []) = valueOf given "monitors" := rfl
      simp only [bind, Except.bind, secretName, monitors]
      cases truthy : (valueOf given "adminsecretname").isTruthy with
      | false => exact .secretless normalized truthy
      | true =>
          cases listed : monitorsOf (valueOf given "monitors") with
          | error failure => exact .unlisted normalized listed
          | ok found =>
              cases found with
              | nil => exact .monitorless normalized truthy listed
              | cons first rest => exact .accepted normalized truthy listed (List.cons_ne_nil _ _)

theorem resolve_eq_ok_iff {parameters : Mapping} {result : ClusterParameters} :
    resolve parameters = .ok result
      ↔ ∃ given found, normalize [] parameters = .ok given
        ∧ (valueOf given "adminsecretname").isTruthy = true
        ∧ monitorsOf (valueOf given "monitors") = .ok found ∧ found ≠ []
        ∧ result = resolved given found := by
  have course := resolve_course parameters
  generalize resolve parameters = outcome at course
  constructor
  · rintro rfl
    cases course with
    | accepted normalized truthy listed nonempty =>
        exact ⟨_, _, normalized, truthy, listed, nonempty, rfl⟩
  · rintro ⟨given, found, normalized, truthy, listed, nonempty, rfl⟩
    cases course with
    | misnamed refused => cases normalized.symm.trans refused
    | secretless other empty =>
        cases normalized.symm.trans other
        cases truthy.symm.trans empty
    | unlisted other refused =>
        cases normalized.symm.trans other
        cases listed.symm.trans refused
    | monitorless other _ none =>
        cases normalized.symm.trans other
        cases listed.symm.trans none
        exact absurd rfl nonempty
    | accepted other _ otherListed _ =>
        cases normalized.symm.trans other
        cases listed.symm.trans otherListed
        rfl

/-! ## Refused parameters -/

/-- The causes for which a bundle is refused. -/
inductive IsRefusal : Failure.Cause → Prop
  | unknown (option : Text) : IsRefusal (.unknownParameter option)
  | duplicate (option : Text) : IsRefusal (.duplicateParameter option)
  | missing {parameter : Text}
      (required : parameter ∈ ["admin secret name", "monitors"].map Text.ofString) :
      IsRefusal (.missingParameter parameter)

theorem isRefusal_of_normalize {parameters : Mapping} {seen : Entries Text Json}
    {cause : Failure.Cause} (refused : normalize seen parameters = .error (.declared cause)) :
    IsRefusal cause := by
  induction parameters generalizing seen with
  | nil => cases refused
  | cons entry rest induction =>
      rcases entry with ⟨key, value⟩
      cases key with
      | text key =>
          unfold normalize at refused
          dsimp only at refused
          split at refused
          · cases refused
            exact .unknown key
          · split at refused
            · cases refused
              exact .duplicate key
            · exact induction refused
      | _ => cases refused

theorem monitorsOf_ne_declared (value : Json) (cause : Failure.Cause) :
    monitorsOf value ≠ .error (.declared cause) := by
  cases value <;> exact nofun

theorem isRefusal_of_resolve {parameters : Mapping} {cause : Failure.Cause}
    (refused : resolve parameters = .error (.declared cause)) : IsRefusal cause := by
  have course := resolve_course parameters
  rw [refused] at course
  cases course with
  | misnamed refused => exact isRefusal_of_normalize refused
  | secretless => exact .missing (by simp)
  | unlisted normalized refused => exact absurd refused (monitorsOf_ne_declared _ _)
  | monitorless => exact .missing (by simp)

/-! ## Textual parameters -/

section Texts

variable {parameters : Mapping}

theorem declared_of_normalize (keys : parameters.HasTextKeys) {seen : Entries Text Json}
    {failure : Failure} (refused : normalize seen parameters = .error failure) :
    ∃ cause, failure = .declared cause := by
  induction parameters generalizing seen with
  | nil => cases refused
  | cons entry rest induction =>
      have restKeys : Mapping.HasTextKeys rest := fun key member =>
        keys key (List.mem_cons_of_mem _ member)
      rcases entry with ⟨key, value⟩
      rcases keys key (by simp) with ⟨name, rfl⟩
      unfold normalize at refused
      dsimp only at refused
      split at refused
      · cases refused
        exact ⟨_, rfl⟩
      · split at refused
        · cases refused
          exact ⟨_, rfl⟩
        · exact induction restKeys refused

theorem valueOf_isText {given : Entries Text Json}
    (normalized : normalize [] parameters = .ok given) (values : parameters.HasTextValues)
    (name : Text) : (valueOf given name).IsText := by
  unfold valueOf
  cases found : given.find? name with
  | none => exact ⟨[], rfl⟩
  | some value =>
      rcases (find?_normalize normalized name value).mp found with nothing | ⟨key, member, _⟩
      · cases nothing
      · exact values value (List.mem_map_of_mem member)

/-- Texts are refused for declared causes only. -/
theorem declared_of_resolve (keys : parameters.HasTextKeys) (values : parameters.HasTextValues)
    {failure : Failure} (refused : resolve parameters = .error failure) :
    ∃ cause, failure = .declared cause := by
  have course := resolve_course parameters
  rw [refused] at course
  cases course with
  | misnamed refused => exact declared_of_normalize keys refused
  | secretless => exact ⟨_, rfl⟩
  | unlisted normalized refused =>
      rcases valueOf_isText normalized values "monitors" with ⟨listed, isListed⟩
      rw [isListed] at refused
      cases refused
  | monitorless => exact ⟨_, rfl⟩

/-- What texts are resolved to names its secret by texts. -/
theorem secret_of_resolve (values : parameters.HasTextValues) {result : ClusterParameters}
    (resolves : resolve parameters = .ok result) :
    ∃ namespaceName name : Text, result.secret = ⟨.text namespaceName, .text name⟩ := by
  rcases resolve_eq_ok_iff.mp resolves with ⟨given, found, normalized, _, _, _, rfl⟩
  have texts := valueOf_isText normalized values
  rcases (texts "adminsecretnamespace").orElse ⟨"default", rfl⟩ with ⟨namespaceName, isNamespace⟩
  rcases texts "adminsecretname" with ⟨name, isName⟩
  exact ⟨namespaceName, name, by rw [resolved, isNamespace, isName]⟩

end Texts

/-! ## Agreeing parameters -/

/-- The order in which parameters are given does not matter. -/
theorem resolve_congr {parameters others : Mapping} {result other : ClusterParameters}
    (agrees : parameters.Agrees others)
    (resolves : resolve parameters = .ok result) (otherResolves : resolve others = .ok other) :
    result = other := by
  rcases resolve_eq_ok_iff.mp resolves with ⟨given, found, normalized, _, listed, _, rfl⟩
  rcases resolve_eq_ok_iff.mp otherResolves with
    ⟨otherGiven, otherFound, otherNormalized, _, otherListed, _, rfl⟩
  have values : valueOf given = valueOf otherGiven := by
    funext name
    have equal : given.find? name = otherGiven.find? name := by
      ext value
      rw [find?_normalize_iff normalized, find?_normalize_iff otherNormalized]
      simp only [agrees (.text _)]
    rw [valueOf, valueOf, equal]
  rw [values] at listed
  cases listed.symm.trans otherListed
  simp only [resolved, values]

end Parameters

/-! ## Plain parameters -/

/-- Whether all that parameters tell the agent are plain texts. -/
structure ClusterParameters.IsPlain (parameters : ClusterParameters) : Prop where
  cluster : ∃ cluster : Text, parameters.cluster = .text cluster ∧ cluster.IsPlain
  adminId : ∃ adminId : Text, parameters.adminId = .text adminId ∧ adminId.IsPlain
  monitors : ∀ monitor ∈ parameters.monitors, monitor.IsPlain

namespace Parameters

theorem monitors_isPlain {value : Text} (plain : value.IsPlain) :
    ∀ monitor ∈ monitors value, monitor.IsPlain := by
  intro monitor member
  unfold monitors at member
  rcases List.mem_map.mp (List.mem_filter.mp member).1 with ⟨piece, isPiece, rfl⟩
  exact plain.of_subset
    (List.Subset.trans (Text.strip_subset piece) (Text.subset_of_mem_pieces _ isPiece))

theorem valueOf_isPlain {parameters : Mapping} {given : Entries Text Json}
    (normalized : normalize [] parameters = .ok given) (plain : parameters.HoldsPlainTexts)
    (name : Text) : ∃ value : Text, valueOf given name = .text value ∧ value.IsPlain := by
  unfold valueOf
  cases found : given.find? name with
  | none => exact ⟨[], rfl, by simp [Text.IsPlain]⟩
  | some value =>
      rcases (find?_normalize normalized name value).mp found with nothing | ⟨key, member, _⟩
      · cases nothing
      · rcases plain _ member with ⟨_, text, equal, isPlain⟩
        cases equal
        exact ⟨text, rfl, isPlain⟩

theorem orElse_isPlain {value : Json} {default : Text} (plain : default.IsPlain)
    (given : ∃ text : Text, value = .text text ∧ text.IsPlain) :
    ∃ text : Text, value.orElse (.text default) = .text text ∧ text.IsPlain := by
  rcases given with ⟨text, rfl, textPlain⟩
  unfold Json.orElse
  split
  · exact ⟨text, rfl, textPlain⟩
  · exact ⟨default, rfl, plain⟩

theorem resolve_isPlain {parameters : Mapping} {result : ClusterParameters}
    (plain : parameters.HoldsPlainTexts) (resolves : resolve parameters = .ok result) :
    result.IsPlain := by
  rcases resolve_eq_ok_iff.mp resolves with ⟨given, found, normalized, _, listed, _, rfl⟩
  have values := valueOf_isPlain normalized plain
  refine ⟨orElse_isPlain (by decide) (values _), orElse_isPlain (by decide) (values _), ?_⟩
  rcases values "monitors" with ⟨text, isText, textPlain⟩
  rw [isText] at listed
  cases listed
  exact monitors_isPlain textPlain

end Parameters

end ShareProvisioner
