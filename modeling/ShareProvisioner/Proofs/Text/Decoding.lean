import ShareProvisioner.Proofs.Failure.Result
import ShareProvisioner.Proofs.Text.Scalar
import ShareProvisioner.Proofs.Text.Utf8

/-!
# What can be read as UTF-8

Octets can be read exactly if they are the octets of some characters, and are then read as
these.  Replacing changes nothing about octets that can be read, and whatever it has to
replace, no lone surrogate comes of it.
-/

namespace ShareProvisioner.Utf8

/-! ## The front of octets -/

/-- The leading octets, by the number of octets that they announce. -/
inductive Leads (octet : UInt8) : Lead → Prop
  | one (small : octet.toNat < 0x80) : Leads octet { continuations := 0, bits := octet.toNat }
  | two {bits : Nat} (is : octet.toNat = 0xC0 + bits) (large : 2 ≤ bits) (small : bits < 32) :
      Leads octet { continuations := 1, bits }
  | three {bits : Nat} (is : octet.toNat = 0xE0 + bits) (small : bits < 16) : Leads octet {
      continuations := 2
      least := if bits = 0 then 0xA0 else 0x80
      greatest := if bits = 13 then 0x9F else 0xBF
      bits }
  | four {bits : Nat} (is : octet.toNat = 0xF0 + bits) (small : bits < 5) : Leads octet {
      continuations := 3
      least := if bits = 0 then 0x90 else 0x80
      greatest := if bits = 4 then 0x8F else 0xBF
      bits }

theorem lead?_eq_none {octet : UInt8}
    (outside : 0x80 ≤ octet.toNat ∧ octet.toNat < 0xC2 ∨ 0xF5 ≤ octet.toNat) :
    lead? octet = none := by
  have all : ∀ number : Fin 256, 0x80 ≤ number.val ∧ number.val < 0xC2 ∨ 0xF5 ≤ number.val →
      lead? (UInt8.ofNat number.val) = none := by
    decide +kernel
  have found := all ⟨octet.toNat, octet.toNat_lt⟩ outside
  rwa [UInt8.ofNat_toNat] at found

theorem leads_of_lead? {octet : UInt8} {lead : Lead} (isLead : lead? octet = some lead) :
    Leads octet lead := by
  have octetIs {number : Nat} (is : octet.toNat = number) : octet = UInt8.ofNat number := by
    rw [← is, UInt8.ofNat_toNat]
  have below := octet.toNat_lt
  by_cases one : octet.toNat < 0x80
  · have found := lead?_one one
    rw [UInt8.ofNat_toNat, isLead] at found
    cases found
    exact .one one
  by_cases outside : 0x80 ≤ octet.toNat ∧ octet.toNat < 0xC2 ∨ 0xF5 ≤ octet.toNat
  · exact nomatch isLead.symm.trans (lead?_eq_none outside)
  by_cases two : octet.toNat < 0xE0
  · have is : octet.toNat = 0xC0 + (octet.toNat - 0xC0) := by omega
    have found := @lead?_two (octet.toNat - 0xC0) (by omega) (by omega)
    rw [← octetIs is, isLead] at found
    cases found
    exact .two is (by omega) (by omega)
  by_cases three : octet.toNat < 0xF0
  · have is : octet.toNat = 0xE0 + (octet.toNat - 0xE0) := by omega
    have found := @lead?_three (octet.toNat - 0xE0) (by omega)
    rw [← octetIs is, isLead] at found
    cases found
    exact .three is (by omega)
  · have is : octet.toNat = 0xF0 + (octet.toNat - 0xF0) := by omega
    have found := @lead?_four (octet.toNat - 0xF0) (by omega)
    rw [← octetIs is, isLead] at found
    cases found
    exact .four is (by omega)

theorem run_of_complete {count : Nat} {least greatest : UInt8} {octets : Octets}
    (complete : (continuationRun (count + 1) least greatest octets).length = count + 1) :
    ∃ octet rest, octets = octet :: rest
      ∧ (least.toNat ≤ octet.toNat ∧ octet.toNat ≤ greatest.toNat)
      ∧ continuationRun (count + 1) least greatest octets
        = octet :: continuationRun count 0x80 0xBF rest
      ∧ (continuationRun count 0x80 0xBF rest).length = count := by
  cases octets with
  | nil => cases complete
  | cons octet rest =>
      by_cases within : (least ≤ octet && octet ≤ greatest) = true
      · have isRun : continuationRun (count + 1) least greatest (octet :: rest)
            = octet :: continuationRun count 0x80 0xBF rest := by
          rw [continuationRun, if_pos within]
        rw [isRun, List.length_cons, Nat.add_right_cancel_iff] at complete
        simp only [Bool.and_eq_true, decide_eq_true_eq, UInt8.le_iff_toNat_le] at within
        exact ⟨octet, rest, rfl, within, isRun, complete⟩
      · rw [continuationRun, if_neg within] at complete
        cases complete

section Front

variable {octet : UInt8} {rest : Octets} {number following : Nat}

/-- An octet that continues a character. -/
private def Continues (octet : UInt8) : Prop :=
  0x80 ≤ octet.toNat ∧ octet.toNat ≤ 0xBF

private theorem continuation_eq {position : Nat} (continues : Continues octet)
    (carries : number / Nat.pow 64 position % 64 = octet.toNat - 0x80) :
    continuation number position = octet := by
  unfold Continues at continues
  rw [← UInt8.toNat_inj, toNat_continuation, carries]
  omega

private theorem ofNat_eq {leading : Nat} (is : octet.toNat = leading) :
    UInt8.ofNat leading = octet := by
  rw [← is, UInt8.ofNat_toNat]

/-- What a narrower range says of an octet within it. -/
private theorem continues_of_narrowed {low high : Prop} [Decidable low] [Decidable high]
    {floor ceiling : UInt8} (above : 0x80 ≤ floor.toNat) (below : ceiling.toNat ≤ 0xBF)
    (within : (if low then floor else 0x80).toNat ≤ octet.toNat
      ∧ octet.toNat ≤ (if high then ceiling else 0xBF).toNat) :
    Continues octet ∧ (low → floor.toNat ≤ octet.toNat)
      ∧ (high → octet.toNat ≤ ceiling.toNat) := by
  rcases within with ⟨least, greatest⟩
  have fromFloor : 0x80 ≤ octet.toNat ∧ (low → floor.toNat ≤ octet.toNat) := by
    split at least
    · exact ⟨Nat.le_trans above least, fun _ => least⟩
    · next wide => exact ⟨least, fun narrow => absurd narrow wide⟩
  have toCeiling : octet.toNat ≤ 0xBF ∧ (high → octet.toNat ≤ ceiling.toNat) := by
    split at greatest
    · exact ⟨Nat.le_trans greatest below, fun _ => greatest⟩
    · next wide => exact ⟨greatest, fun narrow => absurd narrow wide⟩
  exact ⟨⟨fromFloor.1, toCeiling.1⟩, fromFloor.2, toCeiling.2⟩

private theorem encodeNumber_two {bits : Nat} {last : UInt8} (is : octet.toNat = 0xC0 + bits)
    (large : 2 ≤ bits) (small : bits < 32) (lastContinues : Continues last)
    (total : 64 * bits + (last.toNat - 0x80) = number) :
    number.isValidChar ∧ encodeNumber number = [octet, last] := by
  have lastWithin : 0x80 ≤ last.toNat ∧ last.toNat ≤ 0xBF := lastContinues
  have leading : octet.toNat = 0xC0 + number / 64 := by omega
  have lastIs : continuation number 0 = last :=
    continuation_eq lastContinues (by rw [Nat.pow_eq]; omega)
  unfold encodeNumber
  rw [if_neg (by omega), if_pos (by omega), ofNat_eq leading, lastIs]
  exact ⟨.inl (by omega), rfl⟩

private theorem encodeNumber_three {bits : Nat} {middle last : UInt8}
    (is : octet.toNat = 0xE0 + bits) (small : bits < 16) (middleContinues : Continues middle)
    (noShorter : bits = 0 → 0xA0 ≤ middle.toNat) (noSurrogate : bits = 13 → middle.toNat ≤ 0x9F)
    (lastContinues : Continues last)
    (total : 64 * (64 * bits + (middle.toNat - 0x80)) + (last.toNat - 0x80) = number) :
    number.isValidChar ∧ encodeNumber number = [octet, middle, last] := by
  have middleWithin : 0x80 ≤ middle.toNat ∧ middle.toNat ≤ 0xBF := middleContinues
  have lastWithin : 0x80 ≤ last.toNat ∧ last.toNat ≤ 0xBF := lastContinues
  have leading : octet.toNat = 0xE0 + number / Nat.pow 64 2 := by rw [Nat.pow_eq]; omega
  have middleIs : continuation number 1 = middle :=
    continuation_eq middleContinues (by rw [Nat.pow_eq]; omega)
  have lastIs : continuation number 0 = last :=
    continuation_eq lastContinues (by rw [Nat.pow_eq]; omega)
  unfold encodeNumber
  rw [if_neg (by omega), if_neg (by omega), if_pos (by omega), ofNat_eq leading, middleIs, lastIs]
  refine ⟨?_, rfl⟩
  unfold Nat.isValidChar
  omega

private theorem encodeNumber_four {bits : Nat} {first middle last : UInt8}
    (is : octet.toNat = 0xF0 + bits) (small : bits < 5) (firstContinues : Continues first)
    (noShorter : bits = 0 → 0x90 ≤ first.toNat) (bounded : bits = 4 → first.toNat ≤ 0x8F)
    (middleContinues : Continues middle) (lastContinues : Continues last)
    (total : 64 * (64 * (64 * bits + (first.toNat - 0x80)) + (middle.toNat - 0x80))
      + (last.toNat - 0x80) = number) :
    number.isValidChar ∧ encodeNumber number = [octet, first, middle, last] := by
  have firstWithin : 0x80 ≤ first.toNat ∧ first.toNat ≤ 0xBF := firstContinues
  have middleWithin : 0x80 ≤ middle.toNat ∧ middle.toNat ≤ 0xBF := middleContinues
  have lastWithin : 0x80 ≤ last.toNat ∧ last.toNat ≤ 0xBF := lastContinues
  have leading : octet.toNat = 0xF0 + number / Nat.pow 64 3 := by rw [Nat.pow_eq]; omega
  have firstIs : continuation number 2 = first :=
    continuation_eq firstContinues (by rw [Nat.pow_eq]; omega)
  have middleIs : continuation number 1 = middle :=
    continuation_eq middleContinues (by rw [Nat.pow_eq]; omega)
  have lastIs : continuation number 0 = last :=
    continuation_eq lastContinues (by rw [Nat.pow_eq]; omega)
  unfold encodeNumber
  rw [if_neg (by omega), if_neg (by omega), if_neg (by omega), ofNat_eq leading, firstIs,
    middleIs, lastIs]
  refine ⟨?_, rfl⟩
  unfold Nat.isValidChar
  omega

private theorem front_character {lead : Lead} (isLead : lead? octet = some lead)
    (isFront : front octet rest = .character number following) :
    (continuationRun lead.continuations lead.least lead.greatest rest).length
        = lead.continuations
      ∧ (continuationRun lead.continuations lead.least lead.greatest rest).foldl
          (fun number next => 64 * number + (next.toNat - 0x80)) lead.bits = number
      ∧ following = lead.continuations := by
  unfold front at isFront
  rw [isLead] at isFront
  dsimp only at isFront
  split at isFront
  · next complete =>
      cases isFront
      exact ⟨complete, rfl, complete⟩
  · cases isFront

/-- What is found at the front of octets is a character, and they begin with its octets. -/
theorem encodeNumber_of_front (isFront : front octet rest = .character number following) :
    number.isValidChar ∧ octet :: rest = encodeNumber number ++ rest.drop following := by
  have conclude {leading others : Octets} (valid : number.isValidChar ∧ encodeNumber number = leading)
      (begins : octet :: rest = leading ++ others) (follows : rest.drop following = others) :
      number.isValidChar ∧ octet :: rest = encodeNumber number ++ rest.drop following := by
    rw [valid.2, follows]
    exact ⟨valid.1, begins⟩
  cases isLead : lead? octet with
  | none =>
      unfold front at isFront
      rw [isLead] at isFront
      cases isFront
  | some lead =>
      rcases front_character isLead isFront with ⟨complete, total, rfl⟩
      cases leads_of_lead? isLead with
      | one small =>
          rw [continuationRun_zero, List.foldl_nil] at total
          have single : encodeNumber number = [octet] := by
            rw [← total, encodeNumber, if_pos small, UInt8.ofNat_toNat]
          have valid : number.isValidChar := .inl (total ▸ Nat.lt_trans small (by decide))
          exact conclude ⟨valid, single⟩ rfl rfl
      | two is large small =>
          rcases run_of_complete complete with ⟨last, rest, rfl, lastContinues, isRun, _⟩
          rw [isRun, continuationRun_zero] at total
          exact conclude (encodeNumber_two is large small lastContinues total) rfl rfl
      | three is small =>
          rcases run_of_complete complete with ⟨middle, rest, rfl, within, isRun, complete⟩
          rcases run_of_complete complete with ⟨last, rest, rfl, lastContinues, isLast, _⟩
          rcases continues_of_narrowed (by decide) (by decide) within
            with ⟨middleContinues, noShorter, noSurrogate⟩
          rw [isRun, isLast, continuationRun_zero] at total
          exact conclude (encodeNumber_three is small middleContinues noShorter noSurrogate
            lastContinues total) rfl rfl
      | four is small =>
          rcases run_of_complete complete with ⟨first, rest, rfl, within, isRun, complete⟩
          rcases run_of_complete complete with
            ⟨middle, rest, rfl, middleContinues, isMiddle, complete⟩
          rcases run_of_complete complete with ⟨last, rest, rfl, lastContinues, isLast, _⟩
          rcases continues_of_narrowed (by decide) (by decide) within
            with ⟨firstContinues, noShorter, bounded⟩
          rw [isRun, isMiddle, isLast, continuationRun_zero] at total
          exact conclude (encodeNumber_four is small firstContinues noShorter bounded
            middleContinues lastContinues total) rfl rfl

end Front

/-! ## Octets that can be read -/

/-- Octets are read from a character on if that is found and the octets behind it are read. -/
theorem decodeFrom_cons_eq_ok_iff {octet : UInt8} {rest : Octets} {position : Nat} {text : Text} :
    decodeFrom position 0 (octet :: rest) = .ok text
      ↔ ∃ number following others, front octet rest = .character number following
        ∧ decodeFrom (position + 1) following rest = .ok others
        ∧ .char (Char.ofNat number) :: others = text := by
  rw [decodeFrom]
  cases isFront : front octet rest with
  | broken fault following => simp
  | character number following =>
      dsimp only
      rw [Result.map_eq_ok_iff]
      constructor
      · rintro ⟨others, further, same⟩
        exact ⟨number, following, others, rfl, further, same⟩
      · rintro ⟨_, _, others, ⟨⟩, further, same⟩
        exact ⟨others, further, same⟩

theorem encodeFrom_of_decodeFrom {octets : Octets} {position pending : Nat} {text : Text}
    (decoded : decodeFrom position pending octets = .ok text) (before : Nat) :
    encodeFrom before text = .ok (octets.drop pending) := by
  induction octets generalizing position pending text before with
  | nil =>
      cases decoded
      rw [List.drop_nil, encodeFrom]
  | cons octet rest induction =>
      cases pending with
      | succ pending => exact induction decoded before
      | zero =>
          rcases decodeFrom_cons_eq_ok_iff.mp decoded with
            ⟨number, following, others, isFront, further, rfl⟩
          rcases encodeNumber_of_front isFront with ⟨valid, begins⟩
          have same : (Char.ofNat number).toNat = number := by
            rw [Char.ofNat, dif_pos valid]
            rfl
          rw [encodeFrom, induction further, same, List.drop_zero, begins]
          rfl

/-- Octets are read as the text that is encoded as them. -/
theorem decode_eq_ok_iff {octets : Octets} {text : Text} :
    decode octets = .ok text ↔ encode text = .ok octets :=
  ⟨fun decoded => encodeFrom_of_decodeFrom decoded 0, decode_encode⟩

/-- The octets of a character are those that a string would store for it. -/
theorem encodeNumber_toNat (value : Char) :
    encodeNumber value.toNat = String.utf8EncodeChar value := by
  have bounded : value.toNat < 0x110000 := by
    rcases value.valid with below | above
    · exact Nat.lt_trans below (by decide)
    · exact above.2
  have leading (mask : Nat) {number : Nat} (small : number < mask) (start : Nat) :
      UInt8.ofNat (start + number) = UInt8.ofNat (number % mask + start) := by
    rw [Nat.mod_eq_of_lt small, Nat.add_comm]
  have continues (position : Nat) : continuation value.toNat position
      = UInt8.ofNat (value.toNat / Nat.pow 64 position % 64 + 128) := by
    rw [continuation, Nat.add_comm]
  have powers : Nat.pow 64 0 = 1 ∧ Nat.pow 64 1 = 64 ∧ Nat.pow 64 2 = 4096
      ∧ Nat.pow 64 3 = 262144 := ⟨rfl, rfl, rfl, rfl⟩
  unfold encodeNumber String.utf8EncodeChar
  rw [continues, continues, continues, powers.1, powers.2.1, powers.2.2.1, powers.2.2.2,
    Nat.div_one]
  have isNumber : value.val.toNat = value.toNat := rfl
  dsimp only
  rw [isNumber]
  by_cases one : value.toNat < 0x80
  · rw [if_pos one, if_pos (Nat.le_of_lt_succ one)]
  have pastOne : ¬value.toNat ≤ 127 := by omega
  rw [if_neg one, if_neg pastOne]
  by_cases two : value.toNat < 0x800
  · rw [if_pos two, if_pos (Nat.le_of_lt_succ two), leading 32 (by omega)]
  have pastTwo : ¬value.toNat ≤ 2047 := by omega
  rw [if_neg two, if_neg pastTwo]
  by_cases three : value.toNat < 0x10000
  · rw [if_pos three, if_pos (Nat.le_of_lt_succ three), leading 16 (by omega)]
  · have pastThree : ¬value.toNat ≤ 65535 := by omega
    rw [if_neg three, if_neg pastThree, leading 8 (by omega)]

theorem encodeFrom_map_char (characters : List Char) (before : Nat) :
    encodeFrom before (characters.map .char)
      = .ok (characters.flatMap String.utf8EncodeChar) := by
  induction characters generalizing before with
  | nil => rfl
  | cons value rest induction =>
      rw [List.map_cons, encodeFrom, induction, encodeNumber_toNat]
      rfl

theorem exists_characters {text : Text} {octets : Octets} {before : Nat}
    (encoded : encodeFrom before text = .ok octets) :
    ∃ characters : List Char, text = characters.map .char := by
  induction text generalizing octets before with
  | nil => exact ⟨[], rfl⟩
  | cons codePoint rest induction =>
      cases codePoint with
      | surrogate offset => cases encoded
      | char value =>
          rw [encodeFrom] at encoded
          cases restEncoded : encodeFrom (before + 1) rest with
          | error fault =>
              rw [restEncoded] at encoded
              cases encoded
          | ok restOctets =>
              rcases induction restEncoded with ⟨characters, rfl⟩
              exact ⟨value :: characters, rfl⟩

/-- Octets can be read if and only if they could be those of a string. -/
theorem exists_decode_iff {octets : Octets} :
    (∃ text, decode octets = .ok text) ↔ octets.toByteArray.IsValidUTF8 := by
  constructor
  · rintro ⟨text, decoded⟩
    have encoded := decode_eq_ok_iff.mp decoded
    rcases exists_characters encoded with ⟨characters, rfl⟩
    have same := (encodeFrom_map_char characters 0).symm.trans encoded
    cases same
    exact ⟨characters, rfl⟩
  · rintro ⟨characters, same⟩
    have octetsAre : octets = characters.flatMap String.utf8EncodeChar :=
      List.toByteArray_inj.mp same
    exact ⟨_, decode_encode (octetsAre ▸ encodeFrom_map_char characters 0)⟩

/-! ## Replacing -/

theorem decodeReplacingAfter_of_decodeFrom {octets : Octets} {position pending : Nat} {text : Text}
    (decoded : decodeFrom position pending octets = .ok text) :
    decodeReplacingAfter pending octets = text := by
  induction octets generalizing position pending text with
  | nil =>
      cases decoded
      rfl
  | cons octet rest induction =>
      cases pending with
      | succ pending => exact induction decoded
      | zero =>
          rcases decodeFrom_cons_eq_ok_iff.mp decoded with
            ⟨number, following, others, isFront, further, rfl⟩
          rw [decodeReplacingAfter, isFront]
          dsimp only
          rw [induction further]

/-- Nothing is replaced in octets that can be read. -/
theorem decodeReplacing_of_encode {text : Text} {octets : Octets}
    (encoded : encode text = .ok octets) : decodeReplacing octets = text :=
  decodeReplacingAfter_of_decodeFrom (decode_encode encoded)

/-- Whatever is replaced, no lone surrogate comes of it. -/
theorem isScalar_decodeReplacing (octets : Octets) : (decodeReplacing octets).isScalar = true := by
  have after (pending : Nat) : (decodeReplacingAfter pending octets).isScalar = true := by
    induction octets generalizing pending with
    | nil => rfl
    | cons octet rest induction =>
        cases pending with
        | succ pending => exact induction pending
        | zero =>
            rw [decodeReplacingAfter]
            cases front octet rest with
            | broken fault following => exact induction following
            | character number following => exact induction following
  exact after 0

end ShareProvisioner.Utf8
