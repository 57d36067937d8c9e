import ShareProvisioner.Proofs.Failure.Result
import ShareProvisioner.Text.Base64

/-!
# Reading Base64

Each octet is put together again from the bits that two letters carry of it.  A group that
is short of octets is recognised by its padding, so octets of every number are read as they
were written.  Of other texts, those can be read whose letters fill groups, with padding or
without.
-/

namespace ShareProvisioner.Base64

/-! ## Letters -/

theorem value?_letter {value : Nat} (small : value < 64) : value? (letter value) = some value := by
  have all : ∀ value : Fin 64, value? (letter value.val) = some value.val := by decide
  exact all ⟨value, small⟩

theorem letter_ne_padding {value : Nat} (small : value < 64) : letter value ≠ '=' := by
  have all : ∀ value : Fin 64, letter value.val ≠ '=' := by decide
  exact all ⟨value, small⟩

theorem letter_isAscii {value : Nat} (small : value < 64) : (letter value).toNat < 0x80 := by
  have all : ∀ value : Fin 64, (letter value.val).toNat < 0x80 := by decide
  exact all ⟨value, small⟩

theorem encode_isAscii (octets : Octets) : ∀ character ∈ encode octets, character.toNat < 0x80 := by
  have padding : '='.toNat < 0x80 := by decide
  induction octets using encode.induct with
  | case1 first second third rest induction =>
      have firstSmall := first.toNat_lt
      have secondSmall := second.toNat_lt
      have thirdSmall := third.toNat_lt
      simp only [encode, List.forall_mem_cons]
      exact ⟨letter_isAscii (by omega), letter_isAscii (by omega), letter_isAscii (by omega),
        letter_isAscii (by omega), induction⟩
  | case2 first second =>
      have firstSmall := first.toNat_lt
      have secondSmall := second.toNat_lt
      simp only [encode, List.forall_mem_cons]
      exact ⟨letter_isAscii (by omega), letter_isAscii (by omega), letter_isAscii (by omega),
        padding, nofun⟩
  | case3 first =>
      have firstSmall := first.toNat_lt
      simp only [encode, List.forall_mem_cons]
      exact ⟨letter_isAscii (by omega), letter_isAscii (by omega), padding, padding, nofun⟩
  | case4 => exact nofun

theorem asciiChars?_map_char {characters : List Char}
    (ascii : ∀ character ∈ characters, character.toNat < 0x80) :
    asciiChars? (characters.map .char) = some characters := by
  unfold asciiChars?
  induction characters with
  | nil => rfl
  | cons first rest induction =>
      have parts := List.forall_mem_cons.mp ascii
      rw [List.map_cons, List.mapM_cons, induction parts.2]
      dsimp only
      rw [if_pos parts.1]
      rfl

/-! ## Groups -/

theorem decodeFrom_letter {value : Nat} (small : value < 64) (written fillers : Nat)
    (group : Group) (rest : List Char) :
    decodeFrom written fillers group (letter value :: rest) = match group.push value with
      | (some octet, group) => (decodeFrom (written + 1) 0 group rest).map (octet :: ·)
      | (none, group) => decodeFrom written 0 group rest := by
  rewrite [decodeFrom, if_neg (letter_ne_padding small), value?_letter small]
  rfl

theorem decodeFrom_two_letters {first second : Nat} (firstSmall : first < 64)
    (secondSmall : second < 64) (written fillers : Nat) (rest : List Char) :
    decodeFrom written fillers .empty (letter first :: letter second :: rest)
      = (decodeFrom (written + 1) 0 (.two first second) rest).map
          (UInt8.ofNat (first * 4 + second / 16) :: ·) := by
  rw [decodeFrom_letter firstSmall]
  exact decodeFrom_letter secondSmall ..

theorem decodeFrom_third_letter {first second third : Nat} (small : third < 64)
    (written fillers : Nat) (rest : List Char) :
    decodeFrom written fillers (.two first second) (letter third :: rest)
      = (decodeFrom (written + 1) 0 (.three first second third) rest).map
          (UInt8.ofNat (second % 16 * 16 + third / 4) :: ·) :=
  decodeFrom_letter small ..

theorem decodeFrom_fourth_letter {first second third fourth : Nat} (small : fourth < 64)
    (written fillers : Nat) (rest : List Char) :
    decodeFrom written fillers (.three first second third) (letter fourth :: rest)
      = (decodeFrom (written + 1) 0 .empty rest).map
          (UInt8.ofNat (third % 4 * 64 + fourth) :: ·) :=
  decodeFrom_letter small ..

section Octets

variable (first second third : UInt8)

private theorem first_octet :
    UInt8.ofNat (first.toNat / 4 * 4 + (first.toNat % 4 * 16 + second.toNat / 16) / 16)
      = first := by
  have secondSmall := second.toNat_lt
  have total : first.toNat / 4 * 4 + (first.toNat % 4 * 16 + second.toNat / 16) / 16
      = first.toNat := by omega
  rw [total, UInt8.ofNat_toNat]

private theorem second_octet :
    UInt8.ofNat ((first.toNat % 4 * 16 + second.toNat / 16) % 16 * 16
        + (second.toNat % 16 * 4 + third.toNat / 64) / 4) = second := by
  have secondSmall := second.toNat_lt
  have thirdSmall := third.toNat_lt
  have total : (first.toNat % 4 * 16 + second.toNat / 16) % 16 * 16
      + (second.toNat % 16 * 4 + third.toNat / 64) / 4 = second.toNat := by omega
  rw [total, UInt8.ofNat_toNat]

private theorem third_octet :
    UInt8.ofNat ((second.toNat % 16 * 4 + third.toNat / 64) % 4 * 64 + third.toNat % 64)
      = third := by
  have thirdSmall := third.toNat_lt
  have total : (second.toNat % 16 * 4 + third.toNat / 64) % 4 * 64 + third.toNat % 64
      = third.toNat := by omega
  rw [total, UInt8.ofNat_toNat]

end Octets

theorem decodeFrom_encode (octets : Octets) (written fillers : Nat) :
    decodeFrom written fillers .empty (encode octets) = .ok octets := by
  induction octets using encode.induct generalizing written fillers with
  | case1 first second third rest induction =>
      have firstSmall := first.toNat_lt
      have secondSmall := second.toNat_lt
      have thirdSmall := third.toNat_lt
      rw [encode, decodeFrom_two_letters (by omega) (by omega), decodeFrom_third_letter (by omega),
        decodeFrom_fourth_letter (by omega), induction, first_octet, second_octet, third_octet]
      rfl
  | case2 first second =>
      have firstSmall := first.toNat_lt
      have secondSmall := second.toNat_lt
      -- A letter without a third octet carries the bits that it would before one of zero.
      have last : UInt8.ofNat ((first.toNat % 4 * 16 + second.toNat / 16) % 16 * 16
          + second.toNat % 16 * 4 / 4) = second := second_octet first second 0
      rw [encode, decodeFrom_two_letters (by omega) (by omega), decodeFrom_third_letter (by omega),
        first_octet, last]
      rfl
  | case3 first =>
      have firstSmall := first.toNat_lt
      have last : UInt8.ofNat (first.toNat / 4 * 4 + first.toNat % 4 * 16 / 16) = first :=
        first_octet first 0
      rw [encode, decodeFrom_two_letters (by omega) (by omega), last]
      rfl
  | case4 => rfl

/-- What octets are written as is read as those octets. -/
theorem decode_encode (octets : Octets) :
    decode ((encode octets).map .char) = .ok octets := by
  unfold decode
  rw [asciiChars?_map_char (encode_isAscii octets)]
  exact decodeFrom_encode octets 0 0

/-! ## Which texts can be read -/

/-- Whether reading pays attention to a character. -/
def isSignificant (character : Char) : Bool :=
  (value? character).isSome || character = '='

/-- The number of letters of the alphabet among characters. -/
def letters (characters : List Char) : Nat :=
  characters.countP fun character => (value? character).isSome

/-- Whether there is padding after letters that make groups and `short` letters more, when
`begun` letters come before all characters. -/
def IsPadded (begun short : Nat) (padding characters : List Char) : Prop :=
  ∃ before after, characters = before ++ (padding ++ after) ∧ (begun + letters before) % 4 = short

/-- Whether characters can be read: their letters make whole groups, or somewhere a group that
lacks one or two letters is filled up with as many padding signs. -/
def IsReadable (characters : List Char) : Prop :=
  letters characters % 4 = 0 ∨ IsPadded 0 3 ['='] characters ∨ IsPadded 0 2 ['=', '='] characters

/-- Whether characters can be read after `begun` letters and `fillers` padding signs. -/
def IsReadableAfter (begun fillers : Nat) (characters : List Char) : Prop :=
  (begun + letters characters) % 4 = 0 ∨ IsPadded begun 3 ['='] characters
    ∨ IsPadded begun 2 ['=', '='] characters
    ∨ begun % 4 = 2 ∧ fillers = 1 ∧ ['='] <+: characters

theorem letters_cons (first : Char) (rest : List Char) :
    letters (first :: rest) = letters [first] + letters rest := by
  unfold letters
  rw [← List.singleton_append, List.countP_append]

theorem isPadded_cons {begun short : Nat} {padding : List Char} {first : Char} {rest : List Char} :
    IsPadded begun short padding (first :: rest)
      ↔ begun % 4 = short ∧ padding <+: first :: rest
        ∨ IsPadded (begun + letters [first]) short padding rest := by
  constructor
  · intro padded
    rcases padded with ⟨before, after, split, matching⟩
    cases before with
    | nil => exact .inl ⟨matching, after, split.symm⟩
    | cons head tail =>
        cases split
        rw [letters_cons, ← Nat.add_assoc] at matching
        exact .inr ⟨tail, after, rfl, matching⟩
  · intro padded
    rcases padded with ⟨matching, after, split⟩ | ⟨before, after, rfl, matching⟩
    · exact ⟨[], after, split.symm, matching⟩
    · refine ⟨first :: before, after, rfl, ?_⟩
      rw [letters_cons, ← Nat.add_assoc]
      exact matching

theorem not_isPadded_nil {begun short : Nat} {first : Char} {rest : List Char} :
    ¬IsPadded begun short (first :: rest) [] := by
  intro padded
  rcases padded with ⟨before, after, split, _⟩
  cases before <;> cases split

theorem isReadableAfter_nil {begun fillers : Nat} :
    IsReadableAfter begun fillers [] ↔ begun % 4 = 0 := by
  simp [IsReadableAfter, not_isPadded_nil, letters]

theorem isReadableAfter_letter {begun fillers : Nat} {first : Char} {rest : List Char}
    (isLetter : letters [first] = 1) (noFiller : first ≠ '=') :
    IsReadableAfter begun fillers (first :: rest) ↔ IsReadableAfter (begun + 1) 0 rest := by
  have unfilled (padding : List Char) : ¬('=' :: padding) <+: first :: rest := by
    intro filled
    rcases filled with ⟨after, split⟩
    exact noFiller (List.head_eq_of_cons_eq split).symm
  simp only [IsReadableAfter, isPadded_cons, isLetter, letters_cons first rest, unfilled]
  simp [Nat.add_assoc]

theorem letters_filler : letters ['='] = 0 := by decide

theorem isReadableAfter_filler {begun : Nat} {rest : List Char} (short : begun % 4 ≠ 3) :
    IsReadableAfter begun 0 ('=' :: rest)
      ↔ IsReadableAfter begun (if begun % 4 = 2 then 1 else 0) rest := by
  simp only [IsReadableAfter, isPadded_cons, letters_filler, letters_cons '=' rest]
  split
  · next two => simp [two, or_comm (a := ['='] <+: rest)]
  · next other => simp [other, short]

/-- A group that is filled up ends the reading. -/
theorem isReadableAfter_of_filled {begun fillers : Nat} {rest : List Char}
    (filled : begun % 4 = 3 ∨ begun % 4 = 2 ∧ fillers = 1) :
    IsReadableAfter begun fillers ('=' :: rest) := by
  rcases filled with three | two
  · exact .inr (.inl ⟨[], rest, rfl, three⟩)
  · exact .inr (.inr (.inr ⟨two.1, two.2, rest, rfl⟩))

/-! ### Reading -/

/-- Whether reading can have come to so many padding signs in a group that is not filled up. -/
def Group.Allows (group : Group) (fillers : Nat) : Prop :=
  fillers = 0 ∨ fillers = 1 ∧ group.size = 2

theorem Group.size_lt (group : Group) : group.size < 4 := by
  cases group <;> simp [size]

theorem Group.filled_iff {group : Group} {fillers : Nat} (allowed : group.Allows fillers) :
    (2 ≤ group.size && 4 ≤ group.size + (fillers + 1)) = true
      ↔ group.size = 3 ∨ group.size = 2 ∧ fillers = 1 := by
  have most := group.size_lt
  simp only [Bool.and_eq_true, decide_eq_true_eq]
  rcases allowed with none | ⟨one, two⟩
  · omega
  · omega

theorem Group.size_push (value : Nat) (group : Group) :
    (group.push value).2.size = (group.size + 1) % 4 := by
  cases group <;> simp [push, size]

theorem exists_decodeFrom_value_iff {next : Char} {value : Nat} (isLetter : value? next = some value)
    (noFiller : next ≠ '=') (written fillers : Nat) (group : Group) (rest : List Char) :
    ∃ later, (∃ octets, decodeFrom written fillers group (next :: rest) = .ok octets)
      ↔ ∃ octets, decodeFrom later 0 (group.push value).2 rest = .ok octets := by
  rw [decodeFrom, if_neg noFiller, isLetter]
  cases group with
  | empty => exact ⟨_, Iff.rfl⟩
  | one | two | three => exact ⟨_, Result.exists_map_eq_ok_iff⟩

/-- Reading from some place on succeeds exactly if the rest is readable after what came before.
The place is known by the letters of the group that has been begun and its padding. -/
theorem exists_decodeFrom_iff (written fillers begun : Nat) (group : Group)
    (characters : List Char) (sized : begun % 4 = group.size) (allowed : group.Allows fillers) :
    (∃ octets, decodeFrom written fillers group characters = .ok octets)
      ↔ IsReadableAfter begun fillers (characters.filter isSignificant) := by
  induction characters generalizing written fillers begun group with
  | nil =>
      rw [List.filter_nil, isReadableAfter_nil, sized]
      cases group <;> simp [decodeFrom, Group.size]
  | cons next rest induction =>
      by_cases filler : next = '='
      · subst filler
        have kept : isSignificant '=' = true := by decide
        rw [List.filter_cons_of_pos kept, decodeFrom, if_pos rfl]
        -- Either the sign fills up the group, which ends the reading, or it is the first of two
        -- or comes too early to count.
        split
        · next filled =>
            rw [Group.filled_iff allowed, ← sized] at filled
            exact ⟨fun _ => isReadableAfter_of_filled filled, fun _ => ⟨[], rfl⟩⟩
        · next unfilled =>
            rw [Group.filled_iff allowed, ← sized] at unfilled
            have few : fillers = 0 := by
              rcases allowed with none | ⟨one, two⟩
              · exact none
              · exact absurd (.inr ⟨sized.trans two, one⟩) unfilled
            have most := group.size_lt
            rw [few, isReadableAfter_filler fun short => unfilled (.inl short), sized]
            by_cases two : group.size = 2
            · rw [if_pos (by omega), if_pos two]
              exact induction _ _ _ _ sized (.inr ⟨rfl, two⟩)
            · rw [if_neg (by omega), if_neg two]
              exact induction _ _ _ _ sized (.inl rfl)
      · cases isLetter : value? next with
        | none =>
            have skipped : ¬isSignificant next = true := by simp [isSignificant, isLetter, filler]
            rw [List.filter_cons_of_neg skipped, decodeFrom, if_neg filler, isLetter]
            exact induction _ _ _ _ sized allowed
        | some value =>
            have kept : isSignificant next = true := by simp [isSignificant, isLetter]
            have counted : letters [next] = 1 := by simp [letters, isLetter]
            rcases exists_decodeFrom_value_iff isLetter filler written fillers group rest with
              ⟨later, same⟩
            have resized : (begun + 1) % 4 = (group.push value).2.size := by
              rw [Group.size_push, ← sized]
              omega
            rw [List.filter_cons_of_pos kept, isReadableAfter_letter counted filler, same]
            exact induction _ _ _ _ resized (.inl rfl)

/-- A text can be decoded if it is in ASCII and can be read, apart from the characters that
are skipped. -/
theorem exists_decode_iff {text : Text} : (∃ octets, decode text = .ok octets)
    ↔ ∃ characters, asciiChars? text = some characters
        ∧ IsReadable (characters.filter isSignificant) := by
  have whole (characters : List Char) :
      IsReadableAfter 0 0 characters ↔ IsReadable characters := by
    simp [IsReadableAfter, IsReadable]
  unfold decode
  cases asciiChars? text with
  | none => exact ⟨nofun, nofun⟩
  | some characters =>
      simp only [Option.some.injEq, exists_eq_left', ← whole]
      exact exists_decodeFrom_iff 0 0 0 .empty characters rfl (.inl rfl)

/-- A padding sign that fills up no group is passed over. -/
example : decode (Text.ofString "a2=V5") = .ok (Utf8.ofString "key") := rfl

end ShareProvisioner.Base64
