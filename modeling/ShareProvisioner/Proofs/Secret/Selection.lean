import ShareProvisioner.Proofs.Outside.Store
import ShareProvisioner.Proofs.Text.Decoding

/-!
# Selecting the key of the administrator

Which entry of a secret is taken follows from the names of its entries alone, in whatever order
they are listed, and what is made of the secret follows from the octets of that entry alone.
-/

namespace ShareProvisioner

/-! ## The order of texts -/

theorem CodePoint.toNat_inj {codePoint other : CodePoint} :
    codePoint.toNat = other.toNat ↔ codePoint = other := by
  refine ⟨fun same => ?_, fun same => same ▸ rfl⟩
  have noSurrogate (value : Char) (offset : Fin 0x800) :
      value.toNat ≠ 0xD800 + offset.val := by
    intro equal
    rcases value.valid with below | above
    · have below : value.toNat < 0xD800 := below
      omega
    · have above : 0xDFFF < value.toNat := above.1
      omega
  cases codePoint with
  | char value =>
      cases other with
      | char otherValue => rw [Char.ext (UInt32.toNat_inj.mp same)]
      | surrogate offset => exact absurd same (noSurrogate value offset)
  | surrogate offset =>
      cases other with
      | char value => exact absurd same.symm (noSurrogate value offset)
      | surrogate otherOffset => rw [Fin.ext (Nat.add_left_cancel same)]

/-- Texts are ordered as the lists of the numbers of their code points. -/
theorem Text.lt_iff {text other : Text} :
    text < other ↔ text.map CodePoint.toNat < other.map CodePoint.toNat := by
  induction text generalizing other with
  | nil =>
      cases other with
      | nil => exact iff_of_false (List.not_lt_nil _) (List.not_lt_nil _)
      | cons codePoint rest => exact iff_of_true (List.nil_lt_cons ..) (List.nil_lt_cons ..)
  | cons codePoint rest induction =>
      cases other with
      | nil => exact iff_of_false (List.not_lt_nil _) (List.not_lt_nil _)
      | cons otherCodePoint otherRest =>
          rw [List.map_cons, List.map_cons, List.cons_lt_cons_iff, List.cons_lt_cons_iff,
            induction, CodePoint.toNat_inj]
          exact Iff.rfl

namespace SecretData

variable {secret : SecretReference} {entries others : List (Text × Octets)}
  {entry other : Text × Octets}

/-! ## The entry that is taken -/

/-- An only entry is taken, of several the one with the preferred name, and else the one whose
name no other name comes before when names are compared by the numbers of their code points. -/
inductive Chosen (entries : List (Text × Octets)) : Text × Octets → Prop
  | only {entry : Text × Octets} (only : entries = [entry]) : Chosen entries entry
  | preferred {octets : Octets} (several : 1 < entries.length)
      (member : (("key" : Text), octets) ∈ entries) : Chosen entries ("key", octets)
  | first {entry : Text × Octets} (several : 1 < entries.length) (member : entry ∈ entries)
      (noPreferred : ∀ other ∈ entries, other.1 ≠ "key")
      (first : ∀ other ∈ entries, ¬other.1.map CodePoint.toNat < entry.1.map CodePoint.toNat) :
      Chosen entries entry

theorem Chosen.mem (chosen : Chosen entries entry) : entry ∈ entries := by
  cases chosen with
  | only only => rw [only]; exact List.mem_singleton_self entry
  | preferred _ member => exact member
  | first _ member => exact member

/-- The order of the entries is of no account. -/
theorem Chosen.perm (chosen : Chosen entries entry) (order : entries.Perm others) :
    Chosen others entry := by
  cases chosen with
  | only only =>
      cases only
      exact .only (List.singleton_perm.mp order).symm
  | preferred several member =>
      exact .preferred (order.length_eq ▸ several) (order.mem_iff.mp member)
  | first several member noPreferred first =>
      exact .first (order.length_eq ▸ several) (order.mem_iff.mp member)
        (fun other inOthers => noPreferred other (order.mem_iff.mpr inOthers))
        (fun other inOthers => first other (order.mem_iff.mpr inOthers))

/-- Entries of one name are one entry. -/
theorem eq_of_name (distinct : (entries.map Prod.fst).Nodup) (member : entry ∈ entries)
    (otherMember : other ∈ entries) (name : entry.1 = other.1) : entry = other := by
  have found := (Entries.find?_eq_some_iff_mem distinct).mpr member
  have otherFound := (Entries.find?_eq_some_iff_mem distinct).mpr otherMember
  rw [name, otherFound] at found
  exact Prod.ext name (Option.some_inj.mp found.symm)

theorem Chosen.unique (distinct : (entries.map Prod.fst).Nodup) (chosen : Chosen entries entry)
    (otherChosen : Chosen entries other) : entry = other := by
  have member := chosen.mem
  have otherMember := otherChosen.mem
  cases chosen with
  | only only =>
      rw [only, List.mem_singleton] at otherMember
      exact otherMember.symm
  | preferred several _ =>
      cases otherChosen with
      | only only => rw [only] at several; exact absurd several (by simp)
      | preferred _ _ => exact eq_of_name distinct member otherMember rfl
      | first _ _ noPreferred => exact absurd rfl (noPreferred _ member)
  | first several _ noPreferred first =>
      cases otherChosen with
      | only only => rw [only] at several; exact absurd several (by simp)
      | preferred _ _ => exact absurd rfl (noPreferred _ otherMember)
      | first _ _ _ otherFirst =>
          have numbers := List.le_antisymm (List.not_lt.mp (first _ otherMember))
            (List.not_lt.mp (otherFirst _ member))
          have name := List.map_injective_iff.mpr (fun _ _ => CodePoint.toNat_inj.mp) numbers
          exact eq_of_name distinct member otherMember name

/-- The least entry is one whose name no other name comes before. -/
theorem least?_spec {data : SecretData} (nonempty : data ≠ []) :
    ∃ least, data.least? = some least ∧ least ∈ data
      ∧ ∀ entry ∈ data, ¬entry.1.map CodePoint.toNat < least.1.map CodePoint.toNat := by
  induction data with
  | nil => exact absurd rfl nonempty
  | cons entry rest induction =>
      cases rest with
      | nil =>
          refine ⟨entry, rfl, List.mem_singleton_self entry, fun other isMember => ?_⟩
          rw [List.mem_singleton.mp isMember]
          exact List.lt_irrefl _
      | cons second rest =>
          rcases induction (by simp) with ⟨least, found, member, first⟩
          rw [least?, found]
          dsimp only
          split
          · next before =>
              have before := Text.lt_iff.mp before
              refine ⟨least, rfl, List.mem_cons_of_mem _ member, fun other isMember => ?_⟩
              rcases List.mem_cons.mp isMember with rfl | inRest
              · exact List.not_lt.mpr (List.le_of_lt before)
              · exact first other inRest
          · next after =>
              have after := Text.lt_iff.not.mp after
              refine ⟨entry, rfl, List.mem_cons_self, fun other isMember => ?_⟩
              rcases List.mem_cons.mp isMember with rfl | inRest
              · exact List.lt_irrefl _
              · exact List.not_lt.mpr (List.le_trans (List.not_lt.mp after)
                  (List.not_lt.mp (first other inRest)))

theorem names_ofOctets (entries : List (Text × Octets)) :
    (SecretData.ofOctets entries).map Prod.fst = entries.map Prod.fst := by
  simp [SecretData.ofOctets]

/-- Unless there is none, an entry is chosen, and it is the one whose value is selected. -/
theorem exists_chosen (distinct : (entries.map Prod.fst).Nodup) (nonempty : entries ≠ []) :
    ∃ entry, Chosen entries entry
      ∧ (SecretData.ofOctets entries).select? = some (.octets entry.2) := by
  by_cases only : ∃ entry, entries = [entry]
  · rcases only with ⟨entry, rfl⟩
    exact ⟨entry, .only rfl, rfl⟩
  have notOne (entry : Text × SecretValue) : SecretData.ofOctets entries ≠ [entry] := by
    intro same
    rcases List.map_eq_singleton_iff.mp same with ⟨single, isSingle, _⟩
    exact only ⟨single, isSingle⟩
  have several : 1 < entries.length := by
    have notZero : entries.length ≠ 0 := fun zero => nonempty (List.eq_nil_of_length_eq_zero zero)
    have notOne : entries.length ≠ 1 := fun one => only (List.length_eq_one_iff.mp one)
    omega
  have dataDistinct := names_ofOctets entries ▸ distinct
  rw [select?_of_several notOne]
  cases preferred : Entries.find? (SecretData.ofOctets entries) preferredName with
  | some value =>
      have member := (Entries.find?_eq_some_iff_mem dataDistinct).mp preferred
      rcases List.mem_map.mp member with ⟨⟨name, octets⟩, inEntries, same⟩
      cases same
      exact ⟨_, .preferred several inEntries, rfl⟩
  | none =>
      have dataNonempty : SecretData.ofOctets entries ≠ [] := fun empty =>
        nonempty (List.map_eq_nil_iff.mp empty)
      rcases least?_spec dataNonempty with ⟨least, found, member, first⟩
      rcases List.mem_map.mp member with ⟨entry, inEntries, rfl⟩
      refine ⟨entry, .first several inEntries (fun other isMember isPreferred => ?_)
        (fun other isMember => first _ (List.mem_map.mpr ⟨other, isMember, rfl⟩)), ?_⟩
      · have inNames : preferredName ∈ (SecretData.ofOctets entries).map Prod.fst := by
          rw [names_ofOctets]
          exact List.mem_map.mpr ⟨other, isMember, isPreferred⟩
        rcases List.mem_map.mp inNames with ⟨present, inData, isName⟩
        rcases Entries.exists_find?_of_mem inData with ⟨value, foundValue⟩
        rw [isName, preferred] at foundValue
        cases foundValue
      · rw [found]
        rfl

/-! ## The key -/

/-- What is made of the octets of an entry: they must be those of a string that says
something. -/
inductive Yields (secret : SecretReference) : Octets → Except Failure.Cause Text → Prop
  | invalid {octets : Octets} (invalid : ¬octets.toByteArray.IsValidUTF8) :
      Yields secret octets (.error (.secretInvalid secret))
  | empty : Yields secret [] (.error (.secretEmpty secret))
  | key (first : Char) (rest : List Char) :
      Yields secret ((first :: rest).flatMap String.utf8EncodeChar)
        (.ok ((first :: rest).map .char))

/-- What is made of the entries of a secret. -/
inductive Resolves (secret : SecretReference) (entries : List (Text × Octets)) :
    Except Failure.Cause Text → Prop
  | nothing (nothing : entries = []) : Resolves secret entries (.error (.secretEmpty secret))
  | chosen {entry : Text × Octets} {result : Except Failure.Cause Text}
      (chosen : Chosen entries entry) (yields : Yields secret entry.2 result) :
      Resolves secret entries result

theorem key_eq_iff_yields {data : SecretData} {octets : Octets}
    {result : Except Failure.Cause Text} (selected : data.select? = some (.octets octets)) :
    data.key secret = result ↔ Yields secret octets result := by
  unfold SecretData.key
  rw [selected]
  dsimp only
  constructor
  · rintro rfl
    cases decoded : Utf8.decode octets with
    | error undecodable =>
        refine .invalid fun valid => ?_
        rcases Utf8.exists_decode_iff.mpr valid with ⟨text, isText⟩
        rw [decoded] at isText
        cases isText
    | ok text =>
        have encoded := Utf8.decode_eq_ok_iff.mp decoded
        rcases Utf8.exists_characters encoded with ⟨characters, rfl⟩
        cases (Utf8.encodeFrom_map_char characters 0).symm.trans encoded
        cases characters with
        | nil => exact .empty
        | cons first rest => exact .key first rest
  · intro yields
    cases yields with
    | invalid invalid =>
        cases decoded : Utf8.decode octets with
        | error undecodable => rfl
        | ok text => exact absurd (Utf8.exists_decode_iff.mp ⟨text, decoded⟩) invalid
    | empty => rfl
    | key first rest =>
        rw [Utf8.decode_eq_ok_iff.mpr (Utf8.encodeFrom_map_char (first :: rest) 0)]
        rfl

theorem key_eq_iff_resolves (distinct : (entries.map Prod.fst).Nodup)
    {result : Except Failure.Cause Text} :
    (SecretData.ofOctets entries).key secret = result ↔ Resolves secret entries result := by
  cases entries with
  | nil =>
      refine ⟨fun same => same ▸ .nothing rfl, fun resolves => ?_⟩
      cases resolves with
      | nothing => rfl
      | chosen chosen => exact absurd chosen.mem List.not_mem_nil
  | cons first rest =>
      rcases exists_chosen distinct (List.cons_ne_nil first rest) with ⟨entry, chosen, selected⟩
      rw [key_eq_iff_yields selected]
      refine ⟨fun yields => .chosen chosen yields, fun resolves => ?_⟩
      cases resolves with
      | nothing nothing => cases nothing
      | chosen otherChosen yields => rwa [chosen.unique distinct otherChosen]

theorem Resolves.perm {result : Except Failure.Cause Text}
    (resolves : Resolves secret entries result) (order : entries.Perm others) :
    Resolves secret others result := by
  cases resolves with
  | nothing nothing =>
      cases nothing
      exact .nothing (List.nil_perm.mp order)
  | chosen chosen yields => exact .chosen (chosen.perm order) yields

/-- Only the octets that are chosen count. -/
theorem Resolves.of_chosen {result : Except Failure.Cause Text}
    (distinct : (entries.map Prod.fst).Nodup) (resolves : Resolves secret entries result)
    (chosen : Chosen entries entry) (otherChosen : Chosen others other)
    (octets : entry.2 = other.2) : Resolves secret others result := by
  cases resolves with
  | nothing nothing =>
      cases nothing
      exact absurd chosen.mem List.not_mem_nil
  | chosen actual yields =>
      cases actual.unique distinct chosen
      exact .chosen otherChosen (octets ▸ yields)

/-- A key is never empty, and its octets are just those that are chosen. -/
theorem Resolves.encode_key {key : Text} (resolves : Resolves secret entries (.ok key)) :
    key ≠ [] ∧ ∃ entry, Chosen entries entry ∧ Utf8.encode key = .ok entry.2 := by
  cases resolves with
  | @chosen entry _ chosen yields =>
      rcases entry with ⟨name, octets⟩
      cases yields with
      | key first rest =>
          exact ⟨nofun, _, chosen, Utf8.encodeFrom_map_char (first :: rest) 0⟩

end SecretData

namespace Store

variable {store : Store} {world : World} {secret : SecretReference}
  {entries : List (Text × Octets)}

/-- The rules leave one result for each secret, whose entries may come in any order and may be
replaced if the chosen octets stay, and a key is never empty and encodes to just these. -/
theorem adminKey_resolves (distinct : (entries.map Prod.fst).Nodup)
    (read : (Action.runIn world (store.readSecret secret)).1 = .ok (.ofOctets entries)) :
    (∃ result, (Action.runIn world (store.adminKey secret)).1 = result.mapError .declared
        ∧ ∀ other, SecretData.Resolves secret entries other ↔ result = other)
      ∧ (∀ (others : List (Text × Octets)) (otherStore : Store) (later : World),
        (Action.runIn later (otherStore.readSecret secret)).1 = .ok (.ofOctets others) →
        (entries.Perm others
          ∨ (others.map Prod.fst).Nodup ∧ ∃ entry other, SecretData.Chosen entries entry
            ∧ SecretData.Chosen others other ∧ entry.2 = other.2) →
        (Action.runIn later (otherStore.adminKey secret)).1
          = (Action.runIn world (store.adminKey secret)).1)
      ∧ ∀ key, (Action.runIn world (store.adminKey secret)).1 = .ok key →
        key ≠ [] ∧ ∃ entry, SecretData.Chosen entries entry ∧ Utf8.encode key = .ok entry.2 := by
  have resolves : SecretData.Resolves secret entries ((SecretData.ofOctets entries).key secret) :=
    (SecretData.key_eq_iff_resolves distinct).mp rfl
  refine ⟨⟨_, runIn_adminKey read, fun other =>
    (SecretData.key_eq_iff_resolves distinct).symm⟩, ?_, ?_⟩
  · intro others otherStore later otherRead same
    rw [runIn_adminKey read, runIn_adminKey otherRead]
    rcases same with order | ⟨otherDistinct, entry, other, chosen, otherChosen, octets⟩
    · have otherDistinct := (order.map Prod.fst).nodup distinct
      rw [(SecretData.key_eq_iff_resolves otherDistinct).mpr (resolves.perm order)]
    · rw [(SecretData.key_eq_iff_resolves otherDistinct).mpr
        (resolves.of_chosen distinct chosen otherChosen octets)]
  · intro key holds
    rw [runIn_adminKey read] at holds
    cases result : (SecretData.ofOctets entries).key secret with
    | error cause =>
        rw [result] at holds
        cases holds
    | ok found =>
        rw [result] at holds resolves
        cases holds
        exact resolves.encode_key

def worldWith (entries : List (Text × Octets)) : World where
  memory := { secrets := [(("team", "admin"), .ofOctets entries)] }

/-- Of two entries none of which has the preferred name, the first by name is taken, though it
is listed last. -/
theorem adminKey_resolves_sample :
    let entries : List (Text × Octets) := [("é", [0xC3, 0x28]), ("b", [0xC3, 0xA9])]
    let secret : SecretReference := ⟨.text "team", .text "admin"⟩
    let outcome := (Action.runIn (worldWith entries) (memory.adminKey secret)).1
    (entries.map Prod.fst).Nodup
      ∧ (Action.runIn (worldWith entries) (memory.readSecret secret)).1 = .ok (.ofOctets entries)
      ∧ outcome = .ok "é"
      ∧ (Action.runIn (worldWith entries.reverse) (memory.adminKey secret)).1 = outcome
      ∧ ∃ entry, SecretData.Chosen entries entry ∧ Utf8.encode "é" = .ok entry.2 := by
  intro entries secret outcome
  have distinct : (entries.map Prod.fst).Nodup := by decide
  have read : (Action.runIn (worldWith entries) (memory.readSecret secret)).1
      = .ok (.ofOctets entries) := runIn_readSecret_memory.mpr rfl
  have otherRead : (Action.runIn (worldWith entries.reverse) (memory.readSecret secret)).1
      = .ok (.ofOctets entries.reverse) := runIn_readSecret_memory.mpr rfl
  have key : outcome = .ok "é" := by decide +kernel
  rcases adminKey_resolves distinct read with ⟨_, reordered, keys⟩
  exact ⟨distinct, read, key, reordered _ memory _ otherRead (.inl entries.reverse_perm.symm),
    (keys _ key).2⟩

end Store

end ShareProvisioner
