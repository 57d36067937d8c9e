import ShareProvisioner.Text.Utf8

/-!
# Reading UTF-8 back

The octets of a text are read as that text.  A character is found at their front since its
leading octet announces just the octets that continue it, with the bits that they do not
carry.
-/

namespace ShareProvisioner.Utf8

/-! ## The octets of a character -/

theorem toNat_continuation (number position : Nat) :
    (continuation number position).toNat = 0x80 + number / Nat.pow 64 position % 64 := by
  have small : 0x80 + number / Nat.pow 64 position % 64 < 256 := by omega
  exact UInt8.toNat_ofNat_of_lt' small

theorem lead?_one {number : Nat} (small : number < 0x80) :
    lead? (UInt8.ofNat number) = some { continuations := 0, bits := number } := by
  have all : ∀ number : Fin 0x80,
      lead? (UInt8.ofNat number.val) = some { continuations := 0, bits := number.val } := by
    decide
  exact all ⟨number, small⟩

theorem lead?_two {bits : Nat} (large : 2 ≤ bits) (small : bits < 32) :
    lead? (UInt8.ofNat (0xC0 + bits)) = some { continuations := 1, bits } := by
  have all : ∀ bits : Fin 32, 2 ≤ bits.val →
      lead? (UInt8.ofNat (0xC0 + bits.val)) = some { continuations := 1, bits := bits.val } := by
    decide
  exact all ⟨bits, small⟩ large

theorem lead?_three {bits : Nat} (small : bits < 16) :
    lead? (UInt8.ofNat (0xE0 + bits)) = some {
      continuations := 2
      least := if bits = 0 then 0xA0 else 0x80
      greatest := if bits = 13 then 0x9F else 0xBF
      bits } := by
  have all : ∀ bits : Fin 16, lead? (UInt8.ofNat (0xE0 + bits.val)) = some {
      continuations := 2
      least := if bits.val = 0 then 0xA0 else 0x80
      greatest := if bits.val = 13 then 0x9F else 0xBF
      bits := bits.val } := by
    decide
  exact all ⟨bits, small⟩

theorem lead?_four {bits : Nat} (small : bits < 5) :
    lead? (UInt8.ofNat (0xF0 + bits)) = some {
      continuations := 3
      least := if bits = 0 then 0x90 else 0x80
      greatest := if bits = 4 then 0x8F else 0xBF
      bits } := by
  have all : ∀ bits : Fin 5, lead? (UInt8.ofNat (0xF0 + bits.val)) = some {
      continuations := 3
      least := if bits.val = 0 then 0x90 else 0x80
      greatest := if bits.val = 4 then 0x8F else 0xBF
      bits := bits.val } := by
    decide
  exact all ⟨bits, small⟩

theorem continuationRun_zero (least greatest : UInt8) (octets : Octets) :
    continuationRun 0 least greatest octets = [] := by
  cases octets <;> rfl

theorem continuationRun_cons {count : Nat} {least greatest octet : UInt8}
    (above : least.toNat ≤ octet.toNat) (below : octet.toNat ≤ greatest.toNat) (rest : Octets) :
    continuationRun (count + 1) least greatest (octet :: rest)
      = octet :: continuationRun count 0x80 0xBF rest := by
  have within : (least ≤ octet && octet ≤ greatest) = true := by
    simp [UInt8.le_iff_toNat_le, above, below]
  rw [continuationRun, if_pos within]

/-- An octet that is no first one continues a character whatever it carries. -/
theorem continuationRun_continuation (count number position : Nat) (rest : Octets) :
    continuationRun (count + 1) 0x80 0xBF (continuation number position :: rest)
      = continuation number position :: continuationRun count 0x80 0xBF rest := by
  have carries := toNat_continuation number position
  have least : (0x80 : UInt8).toNat = 0x80 := rfl
  have greatest : (0xBF : UInt8).toNat = 0xBF := rfl
  exact continuationRun_cons (by omega) (by omega) rest

/-- After some leading octets the next one must lie in a narrower range, which leaves out
numbers that have a shorter form or that are no characters. -/
theorem continuationRun_narrowed {count number position : Nat} {low high : Prop}
    [Decidable low] [Decidable high] {floor ceiling : UInt8}
    (above : low → floor.toNat ≤ (continuation number position).toNat)
    (below : high → (continuation number position).toNat ≤ ceiling.toNat) (rest : Octets) :
    continuationRun (count + 1) (if low then floor else 0x80) (if high then ceiling else 0xBF)
        (continuation number position :: rest)
      = continuation number position :: continuationRun count 0x80 0xBF rest := by
  have carries := toNat_continuation number position
  refine continuationRun_cons ?_ ?_ rest
  · split
    · next narrowed => exact above narrowed
    · have least : (0x80 : UInt8).toNat = 0x80 := rfl
      omega
  · split
    · next narrowed => exact below narrowed
    · have greatest : (0xBF : UInt8).toNat = 0xBF := rfl
      omega

theorem front_of_run {octet : UInt8} {rest run : Octets} {lead : Lead}
    (isLead : lead? octet = some lead)
    (isRun : continuationRun lead.continuations lead.least lead.greatest rest = run)
    (complete : run.length = lead.continuations) :
    front octet rest
      = .character (run.foldl (fun number next => 64 * number + (next.toNat - 0x80)) lead.bits)
          run.length := by
  unfold front
  rw [isLead]
  dsimp only
  rw [isRun, if_pos complete]

section Front

variable {number : Nat}

private theorem front_two (large : 0x80 ≤ number) (small : number < 0x800) (rest : Octets) :
    front (UInt8.ofNat (0xC0 + number / 64)) (continuation number 0 :: rest)
      = .character number 1 := by
  have last : (continuation number 0).toNat = 0x80 + number / 1 % 64 := toNat_continuation ..
  have isRun : continuationRun 1 0x80 0xBF (continuation number 0 :: rest)
      = [continuation number 0] := by
    rw [continuationRun_continuation, continuationRun_zero]
  refine (front_of_run (lead?_two (by omega) (by omega)) isRun rfl).trans ?_
  have total : 64 * (number / 64) + (0x80 + number / 1 % 64 - 0x80) = number := by omega
  rw [List.foldl_cons, List.foldl_nil, last, total, List.length_singleton]

private theorem front_three (large : 0x800 ≤ number) (small : number < 0x10000)
    (valid : number.isValidChar) (rest : Octets) :
    front (UInt8.ofNat (0xE0 + number / 4096))
        (continuation number 1 :: continuation number 0 :: rest) = .character number 2 := by
  have middle : (continuation number 1).toNat = 0x80 + number / 64 % 64 := toNat_continuation ..
  have last : (continuation number 0).toNat = 0x80 + number / 1 % 64 := toNat_continuation ..
  have noSurrogate : number < 0xD800 ∨ 0xDFFF < number := by
    rcases valid with below | above
    · exact .inl below
    · exact .inr above.1
  have isRun : continuationRun 2 (if number / 4096 = 0 then 0xA0 else 0x80)
      (if number / 4096 = 13 then 0x9F else 0xBF)
      (continuation number 1 :: continuation number 0 :: rest)
        = [continuation number 1, continuation number 0] := by
    have floor : (0xA0 : UInt8).toNat = 0xA0 := rfl
    have ceiling : (0x9F : UInt8).toNat = 0x9F := rfl
    rw [continuationRun_narrowed (by omega) (by omega), continuationRun_continuation,
      continuationRun_zero]
  refine (front_of_run (lead?_three (by omega)) isRun rfl).trans ?_
  have total : 64 * (64 * (number / 4096) + (0x80 + number / 64 % 64 - 0x80))
      + (0x80 + number / 1 % 64 - 0x80) = number := by omega
  rw [List.foldl_cons, List.foldl_cons, List.foldl_nil, middle, last, total, List.length_cons,
    List.length_singleton]

private theorem front_four (large : 0x10000 ≤ number) (valid : number.isValidChar)
    (rest : Octets) :
    front (UInt8.ofNat (0xF0 + number / 262144))
        (continuation number 2 :: continuation number 1 :: continuation number 0 :: rest)
      = .character number 3 := by
  have first : (continuation number 2).toNat = 0x80 + number / 4096 % 64 := toNat_continuation ..
  have middle : (continuation number 1).toNat = 0x80 + number / 64 % 64 := toNat_continuation ..
  have last : (continuation number 0).toNat = 0x80 + number / 1 % 64 := toNat_continuation ..
  have small : number < 0x110000 := by
    rcases valid with below | above
    · omega
    · exact above.2
  have isRun : continuationRun 3 (if number / 262144 = 0 then 0x90 else 0x80)
      (if number / 262144 = 4 then 0x8F else 0xBF)
      (continuation number 2 :: continuation number 1 :: continuation number 0 :: rest)
        = [continuation number 2, continuation number 1, continuation number 0] := by
    have floor : (0x90 : UInt8).toNat = 0x90 := rfl
    have ceiling : (0x8F : UInt8).toNat = 0x8F := rfl
    rw [continuationRun_narrowed (by omega) (by omega), continuationRun_continuation,
      continuationRun_continuation, continuationRun_zero]
  refine (front_of_run (lead?_four (by omega)) isRun rfl).trans ?_
  have total : 64 * (64 * (64 * (number / 262144) + (0x80 + number / 4096 % 64 - 0x80))
      + (0x80 + number / 64 % 64 - 0x80)) + (0x80 + number / 1 % 64 - 0x80) = number := by omega
  rw [List.foldl_cons, List.foldl_cons, List.foldl_cons, List.foldl_nil, first, middle, last, total,
    List.length_cons, List.length_cons, List.length_singleton]

/-- A character stands at the front of its octets, whatever follows them. -/
theorem front_encodeNumber (valid : number.isValidChar) :
    ∃ octet run, encodeNumber number = octet :: run
      ∧ ∀ rest, front octet (run ++ rest) = .character number run.length := by
  unfold encodeNumber
  by_cases one : number < 0x80
  · refine ⟨_, [], if_pos one, fun rest => ?_⟩
    exact front_of_run (lead?_one one) (continuationRun_zero ..) rfl
  rw [if_neg one]
  by_cases two : number < 0x800
  · exact ⟨_, _, if_pos two, front_two (by omega) two⟩
  rw [if_neg two]
  by_cases three : number < 0x10000
  · exact ⟨_, _, if_pos three, front_three (by omega) three valid⟩
  · exact ⟨_, _, if_neg three, front_four (by omega) valid⟩

end Front

/-! ## The octets of a text -/

theorem decodeFrom_skip (run rest : Octets) (position : Nat) :
    decodeFrom position run.length (run ++ rest) = decodeFrom (position + run.length) 0 rest := by
  induction run generalizing position with
  | nil => rfl
  | cons octet run induction =>
      rw [List.length_cons, List.cons_append, decodeFrom, induction]
      congr 1
      omega

theorem decodeFrom_encodeNumber (value : Char) (rest : Octets) (position : Nat) :
    ∃ further, decodeFrom position 0 (encodeNumber value.toNat ++ rest)
      = (decodeFrom further 0 rest).map (.char value :: ·) := by
  rcases front_encodeNumber value.valid with ⟨octet, run, encoded, inFront⟩
  have same : Char.ofNat value.toNat = value := Char.ofNat_toNat value
  refine ⟨position + 1 + run.length, ?_⟩
  have number : value.toNat = value.val.toNat := rfl
  rw [number, encoded, List.cons_append, decodeFrom, inFront rest]
  dsimp only
  rw [decodeFrom_skip, ← number, same]

theorem decodeFrom_encodeFrom {text : Text} {octets : Octets} {before : Nat}
    (encoded : encodeFrom before text = .ok octets) (position : Nat) :
    decodeFrom position 0 octets = .ok text := by
  induction text generalizing before octets position with
  | nil =>
      cases encoded
      rfl
  | cons first rest induction =>
      cases first with
      | surrogate offset => cases encoded
      | char value =>
          unfold encodeFrom at encoded
          cases restEncoded : encodeFrom (before + 1) rest with
          | error fault =>
              rw [restEncoded] at encoded
              cases encoded
          | ok restOctets =>
              rw [restEncoded] at encoded
              cases encoded
              rcases decodeFrom_encodeNumber value restOctets position with ⟨further, decoded⟩
              rw [decoded, induction restEncoded further]
              rfl

/-- What a text is encoded as is read as that text. -/
theorem decode_encode {text : Text} {octets : Octets} (encoded : encode text = .ok octets) :
    decode octets = .ok text :=
  decodeFrom_encodeFrom encoded 0

end ShareProvisioner.Utf8
