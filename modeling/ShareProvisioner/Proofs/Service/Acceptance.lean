import ShareProvisioner.Proofs.Failure.Result
import ShareProvisioner.Proofs.Service.Name
import ShareProvisioner.Proofs.Service.Refinement

/-!
# Accepted claims

The service accepts a body as a claim just if each member that it knows is as it must be.
The names are then names as RFC 1123 has them and match the expressions of the service, up to
a line feed at the very end, so that a namespace is one segment of the path that it is put into
and no more.
-/

namespace ShareProvisioner.Service

/-! ## Checks -/

section Checks

variable {α β : Type} {members : List (Text × Json)} {name rule : Text} {limit : Option Nat}
  {isValid : Text → Bool} {input : Json}

theorem andCheck_eq_ok_iff {checked : Checked (α → β)} {next : Checked α} {result : β} :
    andCheck checked next = .ok result
      ↔ ∃ build value, checked = .ok build ∧ next = .ok value ∧ build value = result := by
  cases checked <;> cases next <;> simp [andCheck]

theorem required_eq_ok_iff {check : Json → Checked α} {value : α} :
    required members name check = .ok value
      ↔ ∃ input, Entries.find? members name = some input ∧ check input = .ok value := by
  unfold required
  cases Entries.find? members name <;> simp [complain]

theorem optional_accepts_iff {check : Json → Checked α} {default : α} :
    (∃ value, optional members name default check = .ok value)
      ↔ ∀ input, Entries.find? members name = some input → ∃ value, check input = .ok value := by
  unfold optional
  cases Entries.find? members name <;> simp

theorem orNull_accepts_iff {check : Json → Checked α} :
    (∃ value, orNull check input = .ok value)
      ↔ input = .null ∨ ∃ value, check input = .ok value := by
  cases input with
  | null => simp [orNull]
  | _ =>
      simp only [orNull, reduceCtorEq, false_or]
      exact Result.exists_map_eq_ok_iff

theorem checkText_eq_ok_iff {value : Text} :
    checkText name input = .ok value ↔ input = .text value := by
  cases input <;> simp [checkText, complain]

theorem checkObject_eq_ok_iff {value : List (Text × Json)} :
    checkObject name input = .ok value ↔ input = .object value := by
  cases input <;> simp [checkObject, complain]

theorem checkForm_eq_ok_iff {value : Text} :
    checkForm name limit rule isValid input = .ok value
      ↔ input = .text value ∧ value.isScalar = true ∧ value ≠ []
        ∧ (∀ bound, limit = some bound → value.length ≤ bound) ∧ isValid value = true := by
  have within_iff (given : Text) : limit.filter (· < given.length) = none
      ↔ ∀ bound, limit = some bound → given.length ≤ bound := by
    simp [Option.filter_eq_none_iff]
  unfold checkForm
  rw [Result.bind_eq_ok_iff]
  constructor
  · rintro ⟨given, isText, accepted⟩
    rw [checkText_eq_ok_iff] at isText
    split at accepted
    · cases accepted
    next scalar =>
    split at accepted
    · cases accepted
    next nonempty =>
    split at accepted
    · cases accepted
    next within =>
    split at accepted
    · next valid =>
        cases accepted
        exact ⟨isText, by simpa using scalar, by simpa using nonempty,
          (within_iff value).mp within, valid⟩
    · cases accepted
  · rintro ⟨rfl, scalar, nonempty, bounded, valid⟩
    refine ⟨value, rfl, ?_⟩
    rw [if_neg (by simp [scalar]), if_neg (by simpa using nonempty),
      (within_iff value).mpr bounded]
    exact if_pos valid

/-- A mapping is accepted just if its values are texts, and is then kept as it is. -/
theorem checkTextEntries_eq_ok_iff {entries : List (Text × Json)} {texts : List (Text × Text)} :
    checkTextEntries entries = .ok texts
      ↔ entries = texts.map fun entry => (entry.1, .text entry.2) := by
  induction entries generalizing texts with
  | nil => cases texts <;> simp [checkTextEntries]
  | cons entry rest induction =>
      rcases entry with ⟨key, value⟩
      cases value with
      | text value =>
          cases texts with
          | nil => cases found : checkTextEntries rest <;> simp [checkTextEntries, found]
          | cons first others =>
              have step : checkTextEntries ((key, .text value) :: rest) = .ok (first :: others)
                  ↔ (key, value) = first ∧ checkTextEntries rest = .ok others := by
                cases found : checkTextEntries rest <;> simp [checkTextEntries, found]
              rw [step, induction, List.map_cons, List.cons.injEq, Prod.ext_iff, Prod.ext_iff,
                Json.text.injEq]
      | _ => cases texts <;> cases found : checkTextEntries rest <;> simp [checkTextEntries, found]

theorem checkTextMapping_eq_ok_iff {texts : List (Text × Text)} :
    checkTextMapping input = .ok texts
      ↔ input = .object (texts.map fun entry => (entry.1, .text entry.2)) := by
  cases input with
  | object entries => rw [checkTextMapping, checkTextEntries_eq_ok_iff, Json.object.injEq]
  | _ => simp [checkTextMapping, complain]

theorem checkReclaimPolicy_eq_ok_iff {value : Text} :
    checkReclaimPolicy input = .ok value ↔ input = .text value ∧ value ∈ reclaimPolicies := by
  unfold checkReclaimPolicy
  rw [Result.bind_eq_ok_iff]
  constructor
  · rintro ⟨given, isText, accepted⟩
    rw [checkText_eq_ok_iff] at isText
    split at accepted
    · next known =>
        cases accepted
        exact ⟨isText, List.contains_iff_mem.mp known⟩
    · cases accepted
  · rintro ⟨rfl, known⟩
    exact ⟨value, rfl, if_pos (List.contains_iff_mem.mpr known)⟩

end Checks

/-! ## Claims -/

section Claims

variable {members : List (Text × Json)}

/-- Whether the members of a body, except the two names, are those of a claim: some capacity,
and parameters, a selector, a policy, a class and a claim's name that may be left out. -/
structure OthersFit (members : List (Text × Json)) : Prop where
  capacity : ∃ capacity : Text, Entries.find? members "capacity" = some (.text capacity)
    ∧ capacity.isScalar = true ∧ capacity ≠ []
  parameters : ∀ input, Entries.find? members "parameters" = some input →
    ∃ texts : List (Text × Text), input = .object (texts.map fun entry => (entry.1, .text entry.2))
  selector : ∀ input, Entries.find? members "selector" = some input →
    input = .null ∨ ∃ entries, input = .object entries
  reclaimPolicy : ∀ input, Entries.find? members "reclaim_policy" = some input →
    ∃ policy : Text, input = .text policy ∧ policy ∈ reclaimPolicies
  storageClass : ∀ input, Entries.find? members "storage_class" = some input →
    input = .null ∨ ∃ className, input = .text className
  claimName : ∀ input, Entries.find? members "pvc_name" = some input →
    input = .null ∨ ∃ claimName, input = .text claimName

theorem checkVolumeName_eq_ok_iff {input : Json} {name : Text} :
    checkVolumeName input = .ok name
      ↔ input = .text name ∧ name.length ≤ 253 ∧ UpToLineEnd IsSubdomainName name := by
  rw [checkVolumeName, checkForm_eq_ok_iff, Function.comp, isSubdomain_withoutLineEnd_iff]
  constructor
  · rintro ⟨same, -, -, bounded, subdomain⟩
    exact ⟨same, bounded 253 rfl, subdomain⟩
  · rintro ⟨same, bounded, subdomain⟩
    refine ⟨same, subdomain.isScalar, subdomain.ne_nil, ?_, subdomain⟩
    rintro bound ⟨rfl⟩
    exact bounded

theorem checkNamespace_eq_ok_iff {input : Json} {name : Text} :
    checkNamespace input = .ok name
      ↔ input = .text name ∧ name.length ≤ 63 ∧ UpToLineEnd IsLabelName name := by
  rw [checkNamespace, checkForm_eq_ok_iff, Function.comp, isLabel_withoutLineEnd_iff]
  constructor
  · rintro ⟨same, -, -, bounded, label⟩
    exact ⟨same, bounded 63 rfl, label⟩
  · rintro ⟨same, bounded, label⟩
    have subdomain := label.imp fun _ isLabel => isLabel.isSubdomainName
    refine ⟨same, subdomain.isScalar, subdomain.ne_nil, ?_, label⟩
    rintro bound ⟨rfl⟩
    exact bounded

theorem claimOf_eq_ok_iff {claim : Claim} :
    claimOf members = .ok claim
      ↔ required members "pv_name" checkVolumeName = .ok claim.volumeName
        ∧ required members "namespace" checkNamespace = .ok claim.namespaceName
        ∧ required members "capacity" checkCapacity = .ok claim.capacity
        ∧ optional members "parameters" [] checkTextMapping = .ok claim.parameters
        ∧ (∃ selector, optional members "selector" none (orNull (checkObject "selector"))
            = .ok selector ∧ claim.selector = selector.map .object)
        ∧ optional members "reclaim_policy" (Text.ofString "Delete") checkReclaimPolicy
            = .ok claim.reclaimPolicy
        ∧ optional members "storage_class" none (orNull (checkText "storage_class"))
            = .ok claim.storageClass
        ∧ ∃ claimName, optional members "pvc_name" none (orNull (checkText "pvc_name"))
            = .ok claimName := by
  simp only [claimOf, andCheck_eq_ok_iff]
  constructor
  · rintro ⟨build₈, claimName, ⟨build₇, storageClass, ⟨build₆, policy, ⟨build₅, selector,
      ⟨build₄, parameters, ⟨build₃, capacity, ⟨build₂, namespaceName, ⟨build₁, volumeName, first,
      isVolumeName, rfl⟩, isNamespace, rfl⟩, isCapacity, rfl⟩, areParameters, rfl⟩, isSelector,
      rfl⟩, isPolicy, rfl⟩, isClass, rfl⟩, isClaimName, rfl⟩
    cases first
    exact ⟨isVolumeName, isNamespace, isCapacity, areParameters, ⟨selector, isSelector, rfl⟩,
      isPolicy, isClass, claimName, isClaimName⟩
  · rintro ⟨isVolumeName, isNamespace, isCapacity, areParameters, ⟨selector, isSelector, same⟩,
      isPolicy, isClass, claimName, isClaimName⟩
    refine ⟨_, claimName, ⟨_, claim.storageClass, ⟨_, claim.reclaimPolicy, ⟨_, selector,
      ⟨_, claim.parameters, ⟨_, claim.capacity, ⟨_, claim.namespaceName, ⟨_, claim.volumeName, rfl,
      isVolumeName, rfl⟩, isNamespace, rfl⟩, isCapacity, rfl⟩, areParameters, rfl⟩, isSelector,
      rfl⟩, isPolicy, rfl⟩, isClass, rfl⟩, isClaimName, ?_⟩
    cases claim
    cases same
    rfl

/-- A claim is accepted just if each of its members is, whatever the others are. -/
theorem accepts_iff :
    (∃ claim, claimOf members = .ok claim)
      ↔ (∃ name, required members "pv_name" checkVolumeName = .ok name)
        ∧ (∃ name, required members "namespace" checkNamespace = .ok name)
        ∧ (∃ capacity, required members "capacity" checkCapacity = .ok capacity)
        ∧ (∃ parameters, optional members "parameters" [] checkTextMapping = .ok parameters)
        ∧ (∃ selector, optional members "selector" none (orNull (checkObject "selector"))
            = .ok selector)
        ∧ (∃ policy, optional members "reclaim_policy" (Text.ofString "Delete") checkReclaimPolicy
            = .ok policy)
        ∧ (∃ className, optional members "storage_class" none (orNull (checkText "storage_class"))
            = .ok className)
        ∧ ∃ claimName, optional members "pvc_name" none (orNull (checkText "pvc_name"))
            = .ok claimName := by
  simp only [claimOf_eq_ok_iff]
  constructor
  · rintro ⟨claim, isVolumeName, isNamespace, isCapacity, areParameters, ⟨selector, isSelector, -⟩,
      isPolicy, isClass, isClaimName⟩
    exact ⟨⟨_, isVolumeName⟩, ⟨_, isNamespace⟩, ⟨_, isCapacity⟩, ⟨_, areParameters⟩,
      ⟨_, isSelector⟩, ⟨_, isPolicy⟩, ⟨_, isClass⟩, isClaimName⟩
  · rintro ⟨⟨volumeName, isVolumeName⟩, ⟨namespaceName, isNamespace⟩, ⟨capacity, isCapacity⟩,
      ⟨parameters, areParameters⟩, ⟨selector, isSelector⟩, ⟨reclaimPolicy, isPolicy⟩,
      ⟨storageClass, isClass⟩, isClaimName⟩
    exact ⟨{ volumeName, namespaceName, capacity, parameters, reclaimPolicy, storageClass
             selector := selector.map .object },
      isVolumeName, isNamespace, isCapacity, areParameters, ⟨selector, isSelector, rfl⟩,
      isPolicy, isClass, isClaimName⟩

theorem othersFit_iff :
    OthersFit members
      ↔ (∃ capacity, required members "capacity" checkCapacity = .ok capacity)
        ∧ (∃ parameters, optional members "parameters" [] checkTextMapping = .ok parameters)
        ∧ (∃ selector, optional members "selector" none (orNull (checkObject "selector"))
            = .ok selector)
        ∧ (∃ policy, optional members "reclaim_policy" (Text.ofString "Delete") checkReclaimPolicy
            = .ok policy)
        ∧ (∃ className, optional members "storage_class" none (orNull (checkText "storage_class"))
            = .ok className)
        ∧ ∃ claimName, optional members "pvc_name" none (orNull (checkText "pvc_name"))
            = .ok claimName := by
  simp only [optional_accepts_iff, orNull_accepts_iff, checkTextMapping_eq_ok_iff,
    checkObject_eq_ok_iff, checkReclaimPolicy_eq_ok_iff, checkText_eq_ok_iff, required_eq_ok_iff,
    checkCapacity, checkForm_eq_ok_iff]
  constructor
  · rintro ⟨⟨capacity, found, scalar, nonempty⟩, parameters, selector, policy, className, claimName⟩
    have unbounded : ∀ bound, none = some bound → capacity.length ≤ bound := fun _ => nofun
    exact ⟨⟨capacity, _, found, rfl, scalar, nonempty, unbounded, trivial⟩, parameters, selector,
      policy, className, claimName⟩
  · rintro ⟨⟨capacity, input, found, rfl, scalar, nonempty, -⟩, parameters, selector, policy,
      className, claimName⟩
    exact ⟨⟨capacity, found, scalar, nonempty⟩, parameters, selector, policy, className, claimName⟩

theorem required_volumeName_iff {name : Text} :
    required members "pv_name" checkVolumeName = .ok name
      ↔ Entries.find? members "pv_name" = some (.text name)
        ∧ name.length ≤ 253 ∧ UpToLineEnd IsSubdomainName name := by
  simp only [required_eq_ok_iff, checkVolumeName_eq_ok_iff, existsAndEq, true_and]

theorem required_namespace_iff {name : Text} :
    required members "namespace" checkNamespace = .ok name
      ↔ Entries.find? members "namespace" = some (.text name)
        ∧ name.length ≤ 63 ∧ UpToLineEnd IsLabelName name := by
  simp only [required_eq_ok_iff, checkNamespace_eq_ok_iff, existsAndEq, true_and]

theorem pieces_secretsPath {namespaceName : Text} (whole : .char '/' ∉ namespaceName)
    (name : Json) :
    Text.pieces '/' (Cluster.Client.secretsPath ⟨.text namespaceName, name⟩)
      = [[], "api", "v1", "namespaces", namespaceName, "secrets"] := by
  have path : Cluster.Client.secretsPath ⟨.text namespaceName, name⟩
      = ("/api/v1/namespaces" : Text)
        ++ .char '/' :: (namespaceName ++ .char '/' :: "secrets") := by
    simp only [Cluster.Client.secretsPath, Json.display_text, List.append_assoc]
    rfl
  rw [path, Text.pieces_append_separator, Text.pieces_append_separator,
    Text.pieces_of_not_mem whole]
  rfl

/-- A body is accepted as a claim just if its names are a subdomain and a label within their
limits, each up to a line feed at its very end, and the other members fit. The claim has these
names, and the namespace is one segment of the path that it is put into. Within their limits just
the names pass that the expressions for them match, again up to a line feed. -/
theorem claim_accepted_iff (members : List (Text × Json)) :
    ((∃ claim, claimOf members = .ok claim)
        ↔ (∃ name : Text, Entries.find? members "pv_name" = some (.text name)
            ∧ name.length ≤ 253 ∧ UpToLineEnd IsSubdomainName name)
          ∧ (∃ name : Text, Entries.find? members "namespace" = some (.text name)
            ∧ name.length ≤ 63 ∧ UpToLineEnd IsLabelName name)
          ∧ OthersFit members)
      ∧ (∀ claim, claimOf members = .ok claim →
        Entries.find? members "pv_name" = some (.text claim.volumeName)
          ∧ Entries.find? members "namespace" = some (.text claim.namespaceName)
          ∧ claim.volumeName ⊆ "\n" ++ nameCharacters
          ∧ claim.namespaceName ⊆ "\n" ++ labelCharacters
          ∧ ∀ name : Json,
            Text.pieces '/' (Cluster.Client.secretsPath ⟨.text claim.namespaceName, name⟩)
              = [[], "api", "v1", "namespaces", claim.namespaceName, "secrets"])
      ∧ ∀ name : Text,
        (checkVolumeName (.text name) = .ok name
            ↔ name.length ≤ 253 ∧ UpToLineEnd (· ∈ subdomainExpression.matches') name)
          ∧ (checkNamespace (.text name) = .ok name
            ↔ name.length ≤ 63 ∧ UpToLineEnd (· ∈ labelExpression.matches') name) := by
  refine ⟨?_, ?_, ?_⟩
  · rw [accepts_iff, ← othersFit_iff]
    simp only [required_volumeName_iff, required_namespace_iff]
  · intro claim accepted
    rcases claimOf_eq_ok_iff.mp accepted with ⟨isVolumeName, isNamespace, -⟩
    rcases required_volumeName_iff.mp isVolumeName with ⟨namedVolume, -, subdomain⟩
    rcases required_namespace_iff.mp isNamespace with ⟨namedSpace, -, label⟩
    have consists := label.consists fun _ => IsLabelName.consists
    refine ⟨namedVolume, namedSpace, subdomain.consists fun _ => IsSubdomainName.consists,
      consists, ?_⟩
    have noSlash : .char '/' ∉ ("\n" : Text) ++ labelCharacters := by decide
    exact pieces_secretsPath fun slash => noSlash (consists slash)
  · intro name
    obtain ⟨labels, subdomains⟩ := withoutLineEnd_iff_matches name
    rw [checkVolumeName_eq_ok_iff, checkNamespace_eq_ok_iff, ← isSubdomain_withoutLineEnd_iff,
      ← isLabel_withoutLineEnd_iff, subdomains, labels]
    exact ⟨and_iff_right rfl, and_iff_right rfl⟩

theorem claim_accepted_iff_sample :
    (∃ claim, claimOf claimMembers = .ok claim)
      ∧ Text.pieces '/' (Cluster.Client.secretsPath ⟨.text "team", .text "ceph-dyn-user-secret"⟩)
        = [[], "api", "v1", "namespaces", "team", "secrets"] := by
  have accepted : claimOf claimMembers = .ok Run.sampleClaim := by decide +kernel
  exact ⟨⟨_, accepted⟩, ((claim_accepted_iff claimMembers).2.1 _ accepted).2.2.2.2 _⟩

/-- A body whose namespace is no label for the line feed at its end. -/
theorem line_feed_in_namespace_accepted :
    let members : List (Text × Json) :=
      [("pv_name", .text "pv"), ("namespace", .text "team\n"), ("capacity", .text "1Gi")]
    (claimOf members).map Claim.namespaceName = .ok "team\n" ∧ ¬IsLabelName "team\n" := by
  refine ⟨by decide +kernel, fun label => ?_⟩
  have noLineFeed : .char '\n' ∉ labelCharacters := by decide
  have lineFeed : .char '\n' ∈ Text.ofString "team\n" := by decide
  exact noLineFeed (label.consists lineFeed)

end Claims

end ShareProvisioner.Service
