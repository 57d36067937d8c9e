import Mathlib.Data.List.Forall2
import Mathlib.Data.List.Induction
import ShareProvisioner.Mapping

/-!
# Looking up entries

Writing to a key and erasing one change what is found at that key and nothing else.
-/

namespace ShareProvisioner

namespace Entries

variable {κ : Type u} {ν : Type v} [BEq κ]

@[simp] theorem find?_nil (key : κ) : find? ([] : Entries κ ν) key = none := rfl

theorem find?_cons (entry : κ × ν) (rest : Entries κ ν) (key : κ) :
    find? (entry :: rest) key = if entry.1 == key then some entry.2 else find? rest key := rfl

/-- What is found is an entry, up to the spelling of its key. -/
theorem mem_of_find? {entries : Entries κ ν} {key : κ} {value : ν}
    (found : entries.find? key = some value) :
    ∃ present, (present == key) = true ∧ (present, value) ∈ entries := by
  induction entries with
  | nil => cases found
  | cons entry rest induction =>
      rw [find?_cons] at found
      split at found
      · next matching =>
          cases found
          exact ⟨entry.1, matching, by simp⟩
      · rcases induction found with ⟨present, matching, member⟩
        exact ⟨present, matching, List.mem_cons_of_mem _ member⟩

theorem keys_insert_subset (entries : Entries κ ν) (key : κ) (value : ν) :
    (entries.insert key value).map Prod.fst ⊆ key :: entries.map Prod.fst := by
  induction entries with
  | nil => simp [insert]
  | cons entry rest induction =>
      unfold insert
      split
      · simp
      · intro present member
        rcases List.mem_cons.mp member with rfl | inserted
        · simp
        · rcases List.mem_cons.mp (induction inserted) with rfl | inRest
          · simp
          · exact List.mem_cons_of_mem _ (List.mem_cons_of_mem _ inRest)

theorem values_insert_subset (entries : Entries κ ν) (key : κ) (value : ν) :
    (entries.insert key value).map Prod.snd ⊆ value :: entries.map Prod.snd := by
  induction entries with
  | nil => simp [insert]
  | cons entry rest induction =>
      unfold insert
      split
      · exact List.cons_subset_cons _ (List.subset_cons_self _ _)
      · intro present member
        rcases List.mem_cons.mp member with rfl | inserted
        · simp
        · rcases List.mem_cons.mp (induction inserted) with rfl | inRest
          · simp
          · exact List.mem_cons_of_mem _ (List.mem_cons_of_mem _ inRest)

/-! ### Related entries -/

/-- Whether entries have the same keys in the same order, with related values. -/
def Related (related : ν → ν → Prop) : Entries κ ν → Entries κ ν → Prop :=
  List.Forall₂ fun entry other => entry.1 = other.1 ∧ related entry.2 other.2

namespace Related

variable {related : ν → ν → Prop} {entries others : Entries κ ν}

omit [BEq κ] in
theorem keys_eq (relates : Related related entries others) :
    entries.map Prod.fst = others.map Prod.fst := by
  unfold Related at relates
  induction relates with
  | nil => rfl
  | cons same _ induction => rw [List.map_cons, List.map_cons, same.1, induction]

theorem find? (relates : Related related entries others) (key : κ) :
    Option.Rel related (Entries.find? entries key) (Entries.find? others key) := by
  unfold Related at relates
  induction relates with
  | nil => exact .none
  | @cons entry other _ _ same _ induction =>
      rw [find?_cons, find?_cons, ← same.1]
      split
      · exact .some same.2
      · exact induction

theorem insert (relates : Related related entries others) (key : κ) {value other : ν}
    (relatesNew : related value other) :
    Related related (Entries.insert entries key value) (Entries.insert others key other) := by
  unfold Related at relates ⊢
  induction relates with
  | nil => exact .cons ⟨rfl, relatesNew⟩ .nil
  | @cons entry otherEntry _ _ same rest induction =>
      unfold Entries.insert
      rw [← same.1]
      split
      · exact .cons ⟨rfl, relatesNew⟩ rest
      · exact .cons ⟨rfl, same.2⟩ induction

end Related

variable [EquivBEq κ]

theorem find?_insert (entries : Entries κ ν) (key sought : κ) (value : ν) :
    (entries.insert key value).find? sought
      = if key == sought then some value else entries.find? sought := by
  induction entries with
  | nil => rfl
  | cons entry rest induction =>
      unfold insert
      by_cases present : entry.1 == key
      · rw [if_pos present, find?_cons, find?_cons, BEq.congr_left present]
        split <;> rfl
      · rw [if_neg present, find?_cons, find?_cons, induction]
        by_cases matching : entry.1 == sought
        · have different : ¬(key == sought) = true := fun equal =>
            present (BEq.trans matching (BEq.symm equal))
          rw [if_pos matching, if_neg different, if_pos matching]
        · rw [if_neg matching, if_neg matching]

theorem find?_erase (entries : Entries κ ν) (key sought : κ) :
    (entries.erase key).find? sought
      = if key == sought then none else entries.find? sought := by
  induction entries with
  | nil => simp [erase]
  | cons entry rest induction =>
      unfold erase at induction ⊢
      by_cases present : entry.1 == key
      · rw [List.filter_cons_of_neg (by simpa using present), induction, find?_cons,
          BEq.congr_left present]
        split <;> rfl
      · rw [List.filter_cons_of_pos (by simpa using present), find?_cons, find?_cons, induction]
        by_cases matching : entry.1 == sought
        · have different : ¬(key == sought) = true := fun equal =>
            present (BEq.trans matching (BEq.symm equal))
          rw [if_pos matching, if_neg different, if_pos matching]
        · rw [if_neg matching, if_neg matching]

theorem exists_find?_of_mem {entries : Entries κ ν} {entry : κ × ν} (member : entry ∈ entries) :
    ∃ value, entries.find? entry.1 = some value := by
  induction entries with
  | nil => cases member
  | cons first rest induction =>
      rw [find?_cons]
      by_cases matching : first.1 == entry.1
      · exact ⟨first.2, if_pos matching⟩
      · rw [if_neg matching]
        rcases List.mem_cons.mp member with rfl | inRest
        · exact absurd BEq.rfl matching
        · exact induction inRest

theorem find?_insertAll_of_absent {pairs : List (κ × ν)} {sought : κ}
    (absent : ∀ pair ∈ pairs, ¬(pair.1 == sought) = true) (entries : Entries κ ν) :
    (entries.insertAll pairs).find? sought = entries.find? sought := by
  unfold insertAll
  induction pairs generalizing entries with
  | nil => rfl
  | cons pair pairs induction =>
      have rest := induction fun other member => absent other (List.mem_cons_of_mem _ member)
      rw [List.foldl_cons, rest, find?_insert, if_neg (absent pair (by simp))]

theorem find?_foldl_erase (keys : List κ) (sought : κ) (entries : Entries κ ν) :
    (keys.foldl erase entries).find? sought = none
      ∨ (keys.foldl erase entries).find? sought = entries.find? sought := by
  induction keys generalizing entries with
  | nil => exact .inr rfl
  | cons key keys induction =>
      rw [List.foldl_cons]
      rcases induction (entries.erase key) with nothing | same
      · exact .inl nothing
      · rw [same, find?_erase]
        split
        · exact .inl rfl
        · exact .inr rfl

/-! ### Entries with distinct keys -/

section Distinct

omit [EquivBEq κ]

theorem find?_append (entries others : Entries κ ν) (key : κ) :
    Entries.find? (entries ++ others) key = (entries.find? key).or (others.find? key) := by
  induction entries with
  | nil => rfl
  | cons entry rest induction =>
      rw [List.cons_append, find?_cons, find?_cons, induction]
      split <;> rfl

variable [LawfulBEq κ]

theorem find?_eq_none {entries : Entries κ ν} {key : κ} (absent : key ∉ entries.map Prod.fst) :
    entries.find? key = none := by
  cases found : entries.find? key with
  | none => rfl
  | some value =>
      rcases mem_of_find? found with ⟨present, matching, member⟩
      cases eq_of_beq matching
      exact absurd (List.mem_map.mpr ⟨_, member, rfl⟩) absent

theorem find?_eq_some_iff_mem {entries : Entries κ ν} (distinct : (entries.map Prod.fst).Nodup)
    {key : κ} {value : ν} : entries.find? key = some value ↔ (key, value) ∈ entries := by
  induction entries with
  | nil => simp
  | cons entry rest induction =>
      rcases List.nodup_cons.mp distinct with ⟨absent, restDistinct⟩
      rw [find?_cons, List.mem_cons]
      by_cases matching : entry.1 == key
      · cases eq_of_beq matching
        have elsewhere : (entry.1, value) ∉ rest := fun member =>
          absent (List.mem_map.mpr ⟨_, member, rfl⟩)
        rw [if_pos matching]
        simp [elsewhere, Prod.ext_iff, eq_comm]
      · have different : (key, value) ≠ entry := by
          rintro rfl
          exact matching BEq.rfl
        rw [if_neg matching, induction restDistinct]
        simp [different]

/-- Under distinct keys the order of the entries is of no account. -/
theorem find?_of_perm {entries others : Entries κ ν} (order : entries.Perm others)
    (distinct : (entries.map Prod.fst).Nodup) (key : κ) :
    entries.find? key = others.find? key := by
  have othersDistinct : (others.map Prod.fst).Nodup := (order.map Prod.fst).nodup distinct
  refine Option.ext fun value => ?_
  rw [find?_eq_some_iff_mem distinct, find?_eq_some_iff_mem othersDistinct]
  exact order.mem_iff

end Distinct

/-! ### Pairs that are written in turn -/

section Last

/-- Whether of the pairs with the given key the last one has the given value. -/
def IsLast (pairs : List (κ × ν)) (key : κ) (value : ν) : Prop :=
  ∃ before after, pairs = before ++ (key, value) :: after ∧ ∀ pair ∈ after, pair.1 ≠ key

omit [BEq κ] [EquivBEq κ] in
theorem isLast_concat_iff {pairs : List (κ × ν)} {pair : κ × ν} {key : κ} {value : ν} :
    IsLast (pairs ++ [pair]) key value
      ↔ pair = (key, value) ∨ pair.1 ≠ key ∧ IsLast pairs key value := by
  constructor
  · rintro ⟨before, after, same, others⟩
    rcases List.eq_nil_or_concat after with rfl | ⟨after, last, rfl⟩
    · rcases List.append_inj' same rfl with ⟨rfl, last⟩
      exact .inl (List.cons.inj last).1
    · rw [List.concat_eq_append, ← List.cons_append, ← List.append_assoc] at same
      rcases List.append_inj' same rfl with ⟨rfl, last⟩
      cases last
      exact .inr ⟨others pair (by simp), before, after, rfl,
        fun other member => others other (by simp [member])⟩
  · rintro (rfl | ⟨different, before, after, rfl, others⟩)
    · exact ⟨pairs, [], rfl, nofun⟩
    · refine ⟨before, after ++ [pair], by simp, fun other member => ?_⟩
      rcases List.mem_append.mp member with inAfter | isLast
      · exact others other inAfter
      · rw [List.mem_singleton.mp isLast]
        exact different

omit [EquivBEq κ] in
theorem find?_ofList_eq_some_iff [LawfulBEq κ] {pairs : List (κ × ν)} {key : κ} {value : ν} :
    (ofList pairs).find? key = some value ↔ IsLast pairs key value := by
  induction pairs using List.reverseRecOn with
  | nil =>
      refine iff_of_false nofun ?_
      rintro ⟨before, after, same, _⟩
      simp at same
  | append_singleton pairs pair induction =>
      have written : ofList (pairs ++ [pair]) = (ofList pairs).insert pair.1 pair.2 := by
        rw [ofList, insertAll, List.foldl_append]
        rfl
      rw [written, find?_insert, isLast_concat_iff]
      by_cases matching : pair.1 == key
      · cases eq_of_beq matching
        rw [if_pos matching]
        simp [Prod.ext_iff]
      · have different : pair.1 ≠ key := fun same => matching (same ▸ BEq.rfl)
        rw [if_neg matching, induction]
        simp [Prod.ext_iff, different]

end Last

end Entries

instance : EquivBEq Key where
  rfl := decide_eq_true rfl
  symm equal := decide_eq_true (of_decide_eq_true equal).symm
  trans first second :=
    decide_eq_true ((of_decide_eq_true first).trans (of_decide_eq_true second))

@[simp] theorem Key.text_beq_text (left right : Text) :
    (Key.text left == Key.text right) = decide (left = right) :=
  decide_eq_decide.mpr (Key.text.injEq left right ▸ Iff.rfl)

end ShareProvisioner
