import ShareProvisioner.Proofs.Json.Content
import ShareProvisioner.Proofs.Outside.Store

/-!
# Addresses

Every object of a cluster is read under an address that is put together from its names as
they are.  Two classes never share an address, and no class shares one with a secret.  Two
secrets do so just where the namespace of one takes in the beginning of the other's name.
-/

namespace ShareProvisioner

def Call.url? : Call → Option Text
  | .http request => some request.url
  | _ => none

/-- The addresses of the requests that an action sends. -/
def Action.addresses {α : Type} (world : World) (action : Action α) : List Text :=
  (Action.runIn { world with calls := [] } action).2.calls.filterMap Call.url?

namespace Cluster

/-- What stands between the namespace of a secret and its name. -/
def secretsMark : Text := "/secrets/"

/-- Whether the first namespace goes on, in the address of the first secret, to become the
second one, so that the rest of the first name is the second one. -/
inductive RunsInto (namespaceName name : Text) : Text → Text → Prop
  | apart (middle otherName : Text) (holds : name = middle ++ secretsMark ++ otherName) :
      RunsInto namespaceName name (namespaceName ++ secretsMark ++ middle) otherName
  | touching (otherName : Text) (holds : name = "secrets/" ++ otherName) :
      RunsInto namespaceName name (namespaceName ++ "/secrets") otherName

section Marks

variable {namespaceName name otherNamespace otherName : Text}

theorem RunsInto.append_eq (runs : RunsInto namespaceName name otherNamespace otherName) :
    namespaceName ++ secretsMark ++ name = otherNamespace ++ secretsMark ++ otherName := by
  cases runs with
  | apart middle _ holds => simp only [holds, List.append_assoc]
  | touching _ holds =>
      have mark : secretsMark ++ ("secrets/" : Text) = "/secrets" ++ secretsMark := by decide
      rw [holds, List.append_assoc, ← List.append_assoc secretsMark, mark]
      simp only [List.append_assoc]

/-- A mark begins within another one only with its last slash. -/
theorem mark_overlap {before rest : Text} (split : secretsMark = before ++ rest)
    (begins : rest <+: secretsMark) :
    before = [] ∨ before = "/secrets" ∨ before = secretsMark := by
  have overlaps : ∀ size ∈ List.range 10, secretsMark.drop size <+: secretsMark →
      secretsMark.take size ∈ [[], "/secrets", secretsMark] := by decide
  have size : before.length ∈ List.range 10 := by
    have length := congrArg List.length split
    rw [List.length_append] at length
    have whole : secretsMark.length = 9 := by decide
    rw [List.mem_range]
    omega
  have isRest : secretsMark.drop before.length = rest := by rw [split, List.drop_left]
  have isBefore : secretsMark.take before.length = before := by rw [split, List.take_left]
  have found := overlaps before.length size (isRest ▸ begins)
  simpa [isBefore] using found

theorem runsInto_of_append_eq {middle : Text}
    (same : secretsMark ++ name = middle ++ (secretsMark ++ otherName)) :
    middle = [] ∧ name = otherName
      ∨ RunsInto namespaceName name (namespaceName ++ middle) otherName := by
  rcases List.append_eq_append_iff.mp same with ⟨between, rfl, rfl⟩ | ⟨rest, split, joined⟩
  · have apart := @RunsInto.apart namespaceName (between ++ (secretsMark ++ otherName)) between
      otherName (List.append_assoc ..).symm
    rw [List.append_assoc] at apart
    exact .inr apart
  · have begins : rest <+: secretsMark := by
      have short : rest.length ≤ secretsMark.length := by
        rw [split, List.length_append]
        omega
      exact List.prefix_of_prefix_length_le ⟨name, joined.symm⟩ (List.prefix_append ..) short
    rcases mark_overlap split begins with rfl | rfl | rfl
    · exact .inl ⟨rfl, List.append_cancel_left same⟩
    · apply Or.inr
      apply RunsInto.touching
      have mark : secretsMark = "/secrets" ++ "/" := by decide
      have tail : secretsMark = "/" ++ "secrets/" := by decide
      have isRest : rest = "/" := List.append_cancel_left (split.symm.trans mark)
      rw [isRest, tail, List.append_assoc] at joined
      exact (List.append_cancel_left joined).symm
    · apply Or.inr
      have apart := @RunsInto.apart namespaceName name [] otherName
      rw [List.append_nil] at apart
      exact apart (List.append_cancel_left same)

theorem append_eq_iff :
    namespaceName ++ secretsMark ++ name = otherNamespace ++ secretsMark ++ otherName
      ↔ namespaceName = otherNamespace ∧ name = otherName
        ∨ RunsInto namespaceName name otherNamespace otherName
        ∨ RunsInto otherNamespace otherName namespaceName name := by
  constructor
  · intro same
    rw [List.append_assoc, List.append_assoc] at same
    rcases List.append_eq_append_iff.mp same with ⟨middle, rfl, rest⟩ | ⟨middle, rfl, rest⟩
    · rcases runsInto_of_append_eq rest with ⟨rfl, rfl⟩ | runs
      · exact .inl ⟨(List.append_nil _).symm, rfl⟩
      · exact .inr (.inl runs)
    · rcases runsInto_of_append_eq rest with ⟨rfl, rfl⟩ | runs
      · exact .inl ⟨List.append_nil _, rfl⟩
      · exact .inr (.inr runs)
  · rintro (⟨rfl, rfl⟩ | runs | runs)
    · rfl
    · exact runs.append_eq
    · exact runs.append_eq.symm

end Marks

namespace Client

variable (client : Client) (world : World)

theorem addresses_readSecret (secret : SecretReference) :
    Action.addresses world (client.readSecret secret)
      = [client.baseUrl ++ secretPath secret] := by
  have asked := Store.runIn_readSecret_world { world with calls := [] } (.cluster client) secret
  rw [Store.readSecret] at asked
  rw [Action.addresses, asked]
  rfl

theorem addresses_readClass (name : Json) :
    Action.addresses world (client.readClass name) = [client.baseUrl ++ classPath name] := by
  have asked := Store.runIn_readClass_world { world with calls := [] } (.cluster client) name
  rw [Store.readClass] at asked
  rw [Action.addresses, asked]
  rfl

theorem secretPath_text (namespaceName name : Text) :
    secretPath ⟨.text namespaceName, .text name⟩
      = "/api/v1/namespaces/" ++ (namespaceName ++ secretsMark ++ name) := by
  have mark : secretsMark = "/secrets" ++ "/" := by decide
  simp only [secretPath, secretsPath, mark, List.append_assoc]
  rfl

theorem secretPath_ne_classPath (secret : SecretReference) (name : Json) :
    secretPath secret ≠ classPath name := by
  intro same
  -- The paths part ways right behind their first four letters.
  have fifth := congrArg (fun path => path[4]?) same
  simp only [secretPath, secretsPath, classPath, List.append_assoc] at fifth
  exact nomatch fifth

/-- The addresses of two secrets are the same just if the secrets are, or if the namespace of
one runs into the other's.  Those of two classes are the same only if the classes are, and a
secret and a class never have the same address. -/
theorem addresses_eq_iff (later : World) :
    (∀ namespaceName name otherNamespace otherName : Text,
        Action.addresses world (client.readSecret ⟨.text namespaceName, .text name⟩)
            = Action.addresses later (client.readSecret ⟨.text otherNamespace, .text otherName⟩)
          ↔ namespaceName = otherNamespace ∧ name = otherName
            ∨ RunsInto namespaceName name otherNamespace otherName
            ∨ RunsInto otherNamespace otherName namespaceName name)
      ∧ (∀ name other : Text,
        Action.addresses world (client.readClass (.text name))
            = Action.addresses later (client.readClass (.text other))
          ↔ name = other)
      ∧ ∀ namespaceName name className : Text,
        Action.addresses world (client.readSecret ⟨.text namespaceName, .text name⟩)
          ≠ Action.addresses later (client.readClass (.text className)) := by
  refine ⟨?_, ?_, ?_⟩
  · intro namespaceName name otherNamespace otherName
    rw [addresses_readSecret, addresses_readSecret, secretPath_text, secretPath_text,
      List.singleton_inj, List.append_right_inj, List.append_right_inj]
    exact append_eq_iff
  · intro name other
    rw [addresses_readClass, addresses_readClass, classPath, classPath, List.singleton_inj,
      List.append_right_inj, List.append_right_inj, Json.display_text, Json.display_text]
  · intro namespaceName name className same
    rw [addresses_readSecret, addresses_readClass, List.singleton_inj,
      List.append_right_inj] at same
    exact secretPath_ne_classPath _ _ same

/-- Two bundles that refer to different secrets, which are read under one address. -/
theorem slash_in_namespace_meets :
    let bundle (namespaceName name : Text) : Mapping := .ofTexts [("monitors", "m"),
      ("adminSecretNamespace", namespaceName), ("adminSecretName", name)]
    let referred (given : Mapping) := (Parameters.resolve given).map ClusterParameters.secret
    let client : Client := { baseUrl := "https://api" }
    let one : SecretReference := ⟨.text "a/secrets/b", .text "c"⟩
    let other : SecretReference := ⟨.text "a", .text "b/secrets/c"⟩
    referred (bundle "a/secrets/b" "c") = .ok one ∧ referred (bundle "a" "b/secrets/c") = .ok other
      ∧ one ≠ other
      ∧ Action.addresses {} (client.readSecret one)
        = Action.addresses {} (client.readSecret other) := by
  decide +kernel

end Client

end Cluster

end ShareProvisioner
