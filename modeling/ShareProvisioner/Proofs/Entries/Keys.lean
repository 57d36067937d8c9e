import Mathlib.Data.List.Nodup
import ShareProvisioner.Proofs.Entries

/-!
# The order of keys

A key keeps the place at which it first arrived, and a new one goes to the end.  So writing never
makes a key occur twice, and pairs whose keys differ are entries already.  With the value that each
key has last, this says all about the entries that pairs make up.
-/

namespace ShareProvisioner.Entries

variable {κ : Type u} {ν : Type v} [BEq κ] {entries : Entries κ ν} {key : κ}

theorem insert_of_absent (absent : ∀ entry ∈ entries, ¬(entry.1 == key) = true) (value : ν) :
    entries.insert key value = entries ++ [(key, value)] := by
  induction entries with
  | nil => rfl
  | cons entry rest induction =>
      have others := induction fun other member => absent other (List.mem_cons_of_mem _ member)
      unfold insert
      rw [if_neg (absent entry List.mem_cons_self), others]
      rfl

theorem insertAll_append (entries : Entries κ ν) (pairs others : List (κ × ν)) :
    entries.insertAll (pairs ++ others) = (entries.insertAll pairs).insertAll others :=
  List.foldl_append

theorem insertAll_concat (entries : Entries κ ν) (pairs : List (κ × ν)) (pair : κ × ν) :
    entries.insertAll (pairs ++ [pair]) = (entries.insertAll pairs).insert pair.1 pair.2 :=
  insertAll_append entries pairs [pair]

/-- Pairs without equal keys are entries. -/
theorem ofList_eq_self {pairs : List (κ × ν)}
    (different : pairs.Pairwise fun one another => ¬(one.1 == another.1) = true) :
    ofList pairs = pairs := by
  induction pairs using List.reverseRecOn with
  | nil => rfl
  | append_singleton pairs pair induction =>
      obtain ⟨earlier, _, apart⟩ := List.pairwise_append.mp different
      rw [ofList, insertAll_concat, ← ofList, induction earlier]
      exact insert_of_absent (fun entry member => apart entry member pair (by simp)) pair.2

section Lawful

variable [LawfulBEq κ]

theorem ofList_of_nodup {pairs : List (κ × ν)} (distinct : (pairs.map Prod.fst).Nodup) :
    ofList pairs = pairs := by
  apply ofList_eq_self
  apply (List.pairwise_map.mp distinct).imp
  intro one another different same
  exact different (eq_of_beq same)

theorem keys_insert_of_not_mem (absent : key ∉ entries.map Prod.fst) (value : ν) :
    (entries.insert key value).map Prod.fst = entries.map Prod.fst ++ [key] := by
  have others : ∀ entry ∈ entries, ¬(entry.1 == key) = true := by
    intro entry member same
    exact absent (List.mem_map.mpr ⟨entry, member, eq_of_beq same⟩)
  rw [insert_of_absent others, List.map_append]
  rfl

theorem keys_insert_of_mem (present : key ∈ entries.map Prod.fst) (value : ν) :
    (entries.insert key value).map Prod.fst = entries.map Prod.fst := by
  induction entries with
  | nil => cases present
  | cons entry rest induction =>
      unfold insert
      by_cases same : (entry.1 == key) = true
      · rw [if_pos same]
        rfl
      · have inRest : key ∈ rest.map Prod.fst := by
          apply (List.mem_cons.mp present).resolve_left
          intro equal
          exact same (equal ▸ BEq.rfl)
        rw [if_neg same, List.map_cons, List.map_cons, induction inRest]

/-- All keys stay where they are. -/
theorem keys_prefix_insertAll (entries : Entries κ ν) (pairs : List (κ × ν)) :
    entries.map Prod.fst <+: (entries.insertAll pairs).map Prod.fst := by
  induction pairs using List.reverseRecOn with
  | nil => exact List.prefix_rfl
  | append_singleton pairs pair induction =>
      rw [insertAll_concat]
      by_cases present : pair.1 ∈ (entries.insertAll pairs).map Prod.fst
      · rwa [keys_insert_of_mem present]
      · rw [keys_insert_of_not_mem present]
        exact induction.trans (List.prefix_append _ _)

theorem mem_keys_insertAll_iff {pairs : List (κ × ν)} :
    key ∈ (entries.insertAll pairs).map Prod.fst ↔ key ∈ (entries ++ pairs).map Prod.fst := by
  induction pairs using List.reverseRecOn with
  | nil => rw [List.append_nil]; rfl
  | append_singleton pairs pair induction =>
      rw [insertAll_concat, ← List.append_assoc, List.map_append, List.mem_append, ← induction]
      by_cases present : pair.1 ∈ (entries.insertAll pairs).map Prod.fst
      · rw [keys_insert_of_mem present]
        apply Iff.intro .inl
        intro member
        cases member with
        | inl earlier => exact earlier
        | inr isLast => exact List.mem_singleton.mp isLast ▸ present
      · rw [keys_insert_of_not_mem present, List.mem_append]
        rfl

theorem nodup_keys_insertAll (distinct : (entries.map Prod.fst).Nodup) (pairs : List (κ × ν)) :
    ((entries.insertAll pairs).map Prod.fst).Nodup := by
  induction pairs using List.reverseRecOn with
  | nil => exact distinct
  | append_singleton pairs pair induction =>
      rw [insertAll_concat]
      by_cases present : pair.1 ∈ (entries.insertAll pairs).map Prod.fst
      · rwa [keys_insert_of_mem present]
      · rw [keys_insert_of_not_mem present, ← List.concat_eq_append]
        exact induction.concat present

theorem nodup_keys_ofList (pairs : List (κ × ν)) : ((ofList pairs).map Prod.fst).Nodup := by
  have distinct : (([] : Entries κ ν).map Prod.fst).Nodup := List.nodup_nil
  exact nodup_keys_insertAll distinct pairs

/-! ## Pairs that are merged -/

/-- To write pairs to entries is to make up entries of both. -/
theorem insertAll_eq_ofList (distinct : (entries.map Prod.fst).Nodup) (pairs : List (κ × ν)) :
    entries.insertAll pairs = ofList (entries ++ pairs) := by
  rw [ofList, insertAll_append, ← ofList, ofList_of_nodup distinct]

/-- Whether entries have just the keys of some pairs, each at the place where it first occurs and
with the value that it has last. -/
structure IsMerged (pairs : List (κ × ν)) (entries : Entries κ ν) : Prop where
  keys : entries.map Prod.fst = (pairs.map Prod.fst).eraseDups
  values : ∀ entry ∈ entries, IsLast pairs entry.1 entry.2

theorem keys_ofList (pairs : List (κ × ν)) :
    (ofList pairs).map Prod.fst = (pairs.map Prod.fst).eraseDups := by
  induction pairs using List.reverseRecOn with
  | nil => rfl
  | append_singleton pairs pair induction =>
      rw [ofList, insertAll_concat, ← ofList, List.map_append, List.eraseDups_append, ← induction]
      by_cases occurs : pair.1 ∈ pairs.map Prod.fst
      · have present : pair.1 ∈ (ofList pairs).map Prod.fst :=
          induction ▸ List.mem_eraseDups.mpr occurs
        have nothingNew : ([pair].map Prod.fst).removeAll (pairs.map Prod.fst) = [] := by
          simpa [List.removeAll] using occurs
        rw [keys_insert_of_mem present, nothingNew, List.eraseDups_nil, List.append_nil]
      · have absent : pair.1 ∉ (ofList pairs).map Prod.fst := fun present =>
          occurs (List.mem_eraseDups.mp (induction ▸ present))
        have isNew : ([pair].map Prod.fst).removeAll (pairs.map Prod.fst) = [pair.1] := by
          simpa [List.removeAll] using occurs
        rw [keys_insert_of_not_mem absent, isNew]
        rfl

theorem isMerged_ofList (pairs : List (κ × ν)) : IsMerged pairs (ofList pairs) where
  keys := keys_ofList pairs
  values entry member := by
    have isFound := (find?_eq_some_iff_mem (nodup_keys_ofList pairs)).mpr member
    exact find?_ofList_eq_some_iff.mp isFound

theorem IsLast.unique {pairs : List (κ × ν)} {value other : ν} (isLast : IsLast pairs key value)
    (otherIsLast : IsLast pairs key other) : value = other := by
  rw [← find?_ofList_eq_some_iff] at isLast otherIsLast
  exact Option.some.inj (isLast.symm.trans otherIsLast)

/-- The entries that pairs make up, said without writing them in turn. -/
theorem ofList_eq_iff {pairs : List (κ × ν)} : ofList pairs = entries ↔ IsMerged pairs entries := by
  constructor
  · intro same
    exact same ▸ isMerged_ofList pairs
  · intro merged
    have written := isMerged_ofList pairs
    have sameKeys := written.keys.trans merged.keys.symm
    apply List.ext_getElem
    · simpa using congrArg List.length sameKeys
    · intro index inWritten inMerged
      have sameKey := List.getElem_of_eq sameKeys (by rwa [List.length_map])
      rw [List.getElem_map, List.getElem_map] at sameKey
      have last := written.values _ (List.getElem_mem inWritten)
      rw [sameKey] at last
      exact Prod.ext sameKey (last.unique (merged.values _ (List.getElem_mem inMerged)))

end Lawful

end ShareProvisioner.Entries
