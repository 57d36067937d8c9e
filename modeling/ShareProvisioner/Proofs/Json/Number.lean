import Mathlib.Data.List.TakeWhile
import ShareProvisioner.Proofs.Json.Grammar

/-!
# Finding numbers

A number is found as far as it goes on, and so has to be followed by something that does not
continue it.  It is found part by part, and each part as the grammar has it.
-/

namespace ShareProvisioner.Json

variable {digits fraction whole written rest : Text} {power : Int}

/-! ## What may follow -/

/-- Whether no digits stand in front. -/
def EndsDigits (rest : Text) : Prop :=
  ∀ first ∈ rest.head?, first.isDecimal = false

def continuesNumber (codePoint : CodePoint) : Bool :=
  codePoint.isDecimal || codePoint = .char '.' || codePoint = .char 'e' || codePoint = .char 'E'

/-- Whether what follows a number does not continue it. -/
def EndsNumber (rest : Text) : Prop :=
  ∀ first ∈ rest.head?, continuesNumber first = false

theorem EndsNumber.endsDigits (ends : EndsNumber rest) : EndsDigits rest := by
  intro first isFirst
  have ends := ends first isFirst
  simp only [continuesNumber, Bool.or_eq_false_iff] at ends
  exact ends.1.1.1

theorem EndsNumber.point (ends : EndsNumber rest) : ∀ first ∈ rest.head?, first ≠ .char '.' := by
  rintro _ isFirst rfl
  cases ends _ isFirst

theorem EndsNumber.mark {mark : Char} (ends : EndsNumber rest)
    (isFirst : .char mark ∈ rest.head?) : ¬(mark = 'e' ∨ mark = 'E') := by
  rintro (rfl | rfl)
  · cases ends _ isFirst
  · cases ends _ isFirst

/-! ## Parts -/

theorem takeWhile_digits (allDigits : ∀ digit ∈ digits, digit.isDecimal = true)
    (ends : EndsDigits rest) : (digits ++ rest).takeWhile CodePoint.isDecimal = digits := by
  rw [List.takeWhile_append_of_pos allDigits]
  cases rest with
  | nil => rw [List.takeWhile_nil, List.append_nil]
  | cons first others =>
      rw [List.takeWhile_cons_of_neg (by simp [ends first rfl]), List.append_nil]

theorem isDigits_takeWhile {input : Text} (nonempty : input.takeWhile CodePoint.isDecimal ≠ []) :
    IsDigits (input.takeWhile CodePoint.isDecimal) :=
  ⟨nonempty, fun _ member => List.mem_takeWhile_imp member⟩

theorem wholePart_append (isWhole : IsWhole whole) (ends : EndsDigits rest) :
    wholePart (whole ++ rest) = whole := by
  cases isWhole with
  | zero => rfl
  | digits isDigits noZero =>
      rw [List.cons_append, wholePart.eq_2 _ fun _ zero => noZero (List.cons.inj zero).1]
      exact takeWhile_digits isDigits.2 ends

theorem exists_of_wholePart {input : Text} (nonempty : wholePart input ≠ []) :
    IsWhole (wholePart input) ∧ ∃ rest, input = wholePart input ++ rest := by
  unfold wholePart
  split
  · next others => exact ⟨.zero, others, rfl⟩
  · next noZero =>
      refine ⟨?_, _, List.takeWhile_append_dropWhile.symm⟩
      cases input with
      | nil => exact absurd rfl nonempty
      | cons first others =>
          have nonempty : (first :: others).takeWhile CodePoint.isDecimal ≠ [] := by
            rwa [← wholePart.eq_2 _ noZero]
          have isDigits := isDigits_takeWhile nonempty
          by_cases isDigit : first.isDecimal = true
          · rw [List.takeWhile_cons_of_pos isDigit] at isDigits ⊢
            exact .digits isDigits fun zero => noZero others (congrArg (· :: others) zero)
          · rw [List.takeWhile_cons_of_neg isDigit] at isDigits
            exact absurd rfl isDigits.1

theorem fractionPart_append (writesFraction : WritesFraction fraction written)
    (ends : EndsDigits rest) (noPoint : written = [] → ∀ first ∈ rest.head?, first ≠ .char '.') :
    fractionPart (written ++ rest) = fraction := by
  cases writesFraction with
  | none =>
      rw [List.nil_append, fractionPart.eq_2]
      rintro others rfl
      exact noPoint rfl _ rfl rfl
  | some isDigits => exact takeWhile_digits isDigits.2 ends

/-- How much is written for a fraction. -/
theorem WritesFraction.length_eq (writesFraction : WritesFraction fraction written) :
    written.length = if fraction.isEmpty then 0 else fraction.length + 1 := by
  cases writesFraction with
  | none => rfl
  | some isDigits => rw [if_neg (by simpa using isDigits.1), List.length_cons]

theorem exists_of_fractionPart (input : Text) :
    ∃ written rest, input = written ++ rest ∧ WritesFraction (fractionPart input) written := by
  unfold fractionPart
  split
  · next others =>
      by_cases nothing : others.takeWhile CodePoint.isDecimal = []
      · rw [nothing]
        exact ⟨[], _, rfl, .none⟩
      · refine ⟨_, others.dropWhile CodePoint.isDecimal, ?_, .some (isDigits_takeWhile nothing)⟩
        rw [List.cons_append, List.takeWhile_append_dropWhile]
  · exact ⟨[], _, rfl, .none⟩

theorem exponentSign_append {sign : Text} (isSign : IsSign sign) (isDigits : IsDigits digits)
    (rest : Text) : exponentSign (sign ++ (digits ++ rest)) = sign := by
  cases isSign with
  | plus => rfl
  | minus => rfl
  | none =>
      cases digits with
      | nil => exact absurd rfl isDigits.1
      | cons first others =>
          have isDigit := isDigits.2 first List.mem_cons_self
          unfold exponentSign
          split
          · next sign => rw [(List.cons.inj sign).1] at isDigit; cases isDigit
          · next sign => rw [(List.cons.inj sign).1] at isDigit; cases isDigit
          · rfl

theorem isSign_exponentSign (input : Text) : IsSign (exponentSign input) := by
  unfold exponentSign
  split
  · exact .minus
  · exact .plus
  · exact .none

theorem exponentSign_append_drop (input : Text) :
    exponentSign input ++ input.drop (exponentSign input).length = input := by
  unfold exponentSign
  split <;> rfl

theorem exponentPart_append (writesPower : WritesPower power written) (ends : EndsNumber rest) :
    ∃ sign digits, exponentPart (written ++ rest) = (sign, digits) ∧ powerOf sign digits = power
      ∧ written.length = if digits.isEmpty then 0 else sign.length + digits.length + 1 := by
  cases writesPower with
  | none =>
      refine ⟨[], [], ?_, rfl, rfl⟩
      cases rest with
      | nil => rfl
      | cons first others =>
          cases first with
          | surrogate offset => rfl
          | char mark =>
              have noMark := ends.mark rfl
              exact if_neg (by simp [noMark])
  | @some mark sign digits isMark isSign isDigits =>
      refine ⟨sign, digits, ?_, rfl, ?_⟩
      · rw [List.cons_append, List.append_assoc]
        unfold exponentPart
        dsimp only
        rw [exponentSign_append isSign isDigits, List.drop_left,
          takeWhile_digits isDigits.2 ends.endsDigits]
        exact if_pos (by simpa using ⟨isMark, isDigits.1⟩)
      · rw [if_neg (by simpa using isDigits.1), List.length_cons, List.length_append]

theorem exists_of_exponentPart {input sign digits : Text}
    (isPart : exponentPart input = (sign, digits)) :
    ∃ written rest, input = written ++ rest ∧ WritesPower (powerOf sign digits) written
      ∧ written.length = if digits.isEmpty then 0 else sign.length + digits.length + 1 := by
  have nothing (nothing : ([], []) = (sign, digits)) : ∃ written rest, input = written ++ rest
      ∧ WritesPower (powerOf sign digits) written
      ∧ written.length = if digits.isEmpty then 0 else sign.length + digits.length + 1 := by
    cases nothing
    exact ⟨[], input, rfl, .none, rfl⟩
  unfold exponentPart at isPart
  split at isPart
  · next mark others =>
      dsimp only at isPart
      split at isPart
      · next isPower =>
          simp only [Bool.and_eq_true, Bool.or_eq_true, decide_eq_true_eq, Bool.not_eq_true',
            List.isEmpty_eq_false_iff] at isPower
          rcases isPower with ⟨isMark, nonempty⟩
          have isDigits := isDigits_takeWhile nonempty
          cases isPart
          refine ⟨_, (others.drop (exponentSign others).length).dropWhile CodePoint.isDecimal, ?_,
            .some isMark (isSign_exponentSign others) isDigits, ?_⟩
          · rw [List.cons_append, List.append_assoc, List.takeWhile_append_dropWhile,
              exponentSign_append_drop]
          · rw [if_neg (by simpa using nonempty), List.length_cons, List.length_append]
      · exact nothing isPart
  · exact nothing isPart

/-! ## Numbers -/

/-- The token of a number whose parts are given. -/
def numberToken (negative : Bool) (whole fraction sign exponent : Text) : Token :=
  if fraction.isEmpty && exponent.isEmpty then
    if Text.maxDigits < whole.length then .longNumeral whole.length
    else .scalar (.integer (if negative then -digitsNumber whole else digitsNumber whole))
  else
    .scalar (.float (Binary64.ofDecimal negative (digitsNumber (whole ++ fraction))
      (powerOf sign exponent - fraction.length)))

/-- A number is found part by part. -/
theorem scanNumber?_of_parts (negative : Bool) {writtenFraction writtenPower sign exponent : Text}
    (nonempty : whole ≠ [])
    (isWhole : wholePart (whole ++ (writtenFraction ++ (writtenPower ++ rest))) = whole)
    (isFraction : fractionPart (writtenFraction ++ (writtenPower ++ rest)) = fraction)
    (fractionLength : writtenFraction.length = if fraction.isEmpty then 0 else fraction.length + 1)
    (isPower : exponentPart (writtenPower ++ rest) = (sign, exponent))
    (powerLength : writtenPower.length
      = if exponent.isEmpty then 0 else sign.length + exponent.length + 1) :
    scanNumber? negative (whole ++ (writtenFraction ++ (writtenPower ++ rest)))
      = some (numberToken negative whole fraction sign exponent,
        (whole ++ writtenFraction ++ writtenPower).length) := by
  unfold scanNumber?
  dsimp only
  rw [isWhole, if_neg (by simpa using nonempty), List.drop_left, isFraction, ← fractionLength,
    List.drop_left, isPower]
  dsimp only
  rw [← powerLength, List.length_append, List.length_append]
  rfl

theorem isEmpty_of_length {part written : Text} {count : Nat}
    (counted : written.length = if part.isEmpty then 0 else count + 1) :
    written = [] ↔ part.isEmpty = true := by
  rw [← List.length_eq_zero_iff, counted]
  split <;> simp_all

theorem EndsNumber.endsDigits_power (ends : EndsNumber rest)
    (writesPower : WritesPower power written) : EndsDigits (written ++ rest) := by
  cases writesPower with
  | none => exact ends.endsDigits
  | some isMark =>
      rintro first ⟨⟩
      rcases isMark with rfl | rfl
      · rfl
      · rfl

theorem EndsNumber.noPoint_power (ends : EndsNumber rest)
    (writesPower : WritesPower power written) :
    ∀ first ∈ (written ++ rest).head?, first ≠ .char '.' := by
  cases writesPower with
  | none => exact ends.point
  | some isMark =>
      rintro first ⟨⟩
      rcases isMark with rfl | rfl
      · decide
      · decide

theorem WritesFraction.endsDigits (writesFraction : WritesFraction fraction written)
    (ends : EndsDigits rest) : EndsDigits (written ++ rest) := by
  cases writesFraction with
  | none => exact ends
  | some isDigits =>
      rintro first ⟨⟩
      rfl

theorem IsWhole.ne_nil (isWhole : IsWhole whole) : whole ≠ [] := by
  cases isWhole <;> exact List.cons_ne_nil _ _

theorem scanNumber?_of_writesNumber {negative : Bool} {value : Json}
    (writesNumber : WritesNumber negative value written) (ends : EndsNumber rest) :
    scanNumber? negative (written ++ rest) = some (.scalar value, written.length) := by
  have scanned {whole fraction writtenFraction writtenPower : Text} {power : Int}
      (isWhole : IsWhole whole) (writesFraction : WritesFraction fraction writtenFraction)
      (writesPower : WritesPower power writtenPower) :
      ∃ sign exponent, powerOf sign exponent = power
        ∧ (writtenPower = [] ↔ exponent.isEmpty = true)
        ∧ scanNumber? negative (whole ++ writtenFraction ++ writtenPower ++ rest)
          = some (numberToken negative whole fraction sign exponent,
            (whole ++ writtenFraction ++ writtenPower).length) := by
    rcases exponentPart_append writesPower ends with ⟨sign, exponent, isPower, is, powerLength⟩
    refine ⟨sign, exponent, is, isEmpty_of_length powerLength, ?_⟩
    have endsFraction := ends.endsDigits_power writesPower
    rw [List.append_assoc, List.append_assoc]
    exact scanNumber?_of_parts negative isWhole.ne_nil
      (wholePart_append isWhole (writesFraction.endsDigits endsFraction))
      (fractionPart_append writesFraction endsFraction fun _ => ends.noPoint_power writesPower)
      writesFraction.length_eq isPower powerLength
  cases writesNumber with
  | integer isWhole bounded =>
      rcases scanned isWhole .none .none with ⟨sign, exponent, _, noPower, scanned⟩
      rw [List.append_nil, List.append_nil] at scanned
      rw [scanned, numberToken, if_pos (by simp [noPower.mp rfl]), if_neg (Nat.not_lt.mpr bounded)]
  | float isWhole writesFraction writesPower isFloat =>
      rcases scanned isWhole writesFraction writesPower with ⟨sign, exponent, rfl, noPower, scanned⟩
      have noFraction := isEmpty_of_length writesFraction.length_eq
      rw [scanned, numberToken, if_neg]
      intro neither
      rw [Bool.and_eq_true, ← noFraction, ← noPower] at neither
      rcases isFloat with some | some
      · exact some neither.1
      · exact some neither.2

theorem writesNumber_of_scanNumber? {negative : Bool} {input : Text} {token : Token} {count : Nat}
    (found : scanNumber? negative input = some (token, count)) :
    (∃ digits, token = .longNumeral digits)
      ∨ ∃ value written rest, token = .scalar value ∧ input = written ++ rest
        ∧ count = written.length ∧ WritesNumber negative value written := by
  by_cases nonempty : wholePart input = []
  · unfold scanNumber? at found
    rw [nonempty] at found
    cases found
  rcases exists_of_wholePart nonempty with ⟨isWhole, afterWhole, split⟩
  rcases exists_of_fractionPart afterWhole with ⟨writtenFraction, afterFraction, rfl, writesFraction⟩
  rcases isPower : exponentPart afterFraction with ⟨sign, exponent⟩
  rcases exists_of_exponentPart isPower with ⟨writtenPower, rest, rfl, writesPower, powerLength⟩
  have scanned := scanNumber?_of_parts negative nonempty (by rw [← split]) rfl
    writesFraction.length_eq isPower powerLength
  rw [← split, found] at scanned
  cases scanned
  have noFraction := isEmpty_of_length writesFraction.length_eq
  have noPower := isEmpty_of_length powerLength
  have parts : input = (wholePart input ++ writtenFraction ++ writtenPower) ++ rest := by
    rw [List.append_assoc, List.append_assoc]
    exact split
  unfold numberToken
  split
  · next isInteger =>
      rw [Bool.and_eq_true, ← noFraction, ← noPower] at isInteger
      have alone : wholePart input ++ writtenFraction ++ writtenPower = wholePart input := by
        rw [isInteger.1, isInteger.2, List.append_nil, List.append_nil]
      rw [alone] at parts ⊢
      split
      · exact .inl ⟨_, rfl⟩
      · next bounded =>
          exact .inr ⟨_, _, rest, rfl, parts, rfl, .integer isWhole (Nat.not_lt.mp bounded)⟩
  · next isFloat =>
      rw [Bool.and_eq_true, ← noFraction, ← noPower, not_and_or] at isFloat
      exact .inr ⟨_, _, rest, rfl, parts, rfl, .float isWhole writesFraction writesPower isFloat⟩

end ShareProvisioner.Json
