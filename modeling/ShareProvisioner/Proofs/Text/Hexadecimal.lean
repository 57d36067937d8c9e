import ShareProvisioner.Proofs.Text.Plain
import ShareProvisioner.Text.Hexadecimal

/-!
# Hexadecimal digits

A number is read back from its hexadecimal digits, so different numbers are written
differently.  A process takes them as they are.
-/

namespace ShareProvisioner

namespace Text

def hexadecimalValue (digits : Text) : Nat :=
  digits.foldl (fun value digit => value * 16 + digit.hexDigit?.getD 0) 0

theorem hexDigit?_digitChar {digit : Nat} (small : digit < 16) :
    (CodePoint.char digit.digitChar).hexDigit? = some digit := by
  have all : ∀ digit : Fin 16, (CodePoint.char digit.val.digitChar).hexDigit? = some digit.val := by
    decide
  exact all ⟨digit, small⟩

theorem hexadecimalValue_concat (digits : Text) (digit : CodePoint) :
    hexadecimalValue (digits ++ [digit])
      = hexadecimalValue digits * 16 + digit.hexDigit?.getD 0 := by
  simp [hexadecimalValue]

theorem hexadecimalValue_toDigits (number : Nat) :
    hexadecimalValue ((Nat.toDigits 16 number).map .char) = number := by
  induction number using Nat.strongRecOn with
  | ind number induction =>
      by_cases small : number < 16
      · rw [Nat.toDigits_of_lt_base small]
        simp [hexadecimalValue, hexDigit?_digitChar small]
      · have large : 16 ≤ number := Nat.le_of_not_lt small
        have rest : number % 16 < 16 := Nat.mod_lt _ (by decide)
        rw [Nat.toDigits_of_base_le (by decide) large, List.map_append, List.map_singleton,
          hexadecimalValue_concat, induction _ (by omega), hexDigit?_digitChar rest,
          Option.getD_some]
        omega

theorem hexadecimalValue_zeros (count : Nat) (digits : Text) :
    hexadecimalValue (List.replicate count (.char '0') ++ digits) = hexadecimalValue digits := by
  induction count with
  | zero => rfl
  | succ count induction => exact induction

/-- Reading the digits of a number gives the number. -/
theorem hexadecimalValue_hexadecimal (width number : Nat) :
    hexadecimalValue (hexadecimal width number) = number := by
  unfold hexadecimal
  dsimp only
  rw [hexadecimalValue_zeros, hexadecimalValue_toDigits]

theorem hexadecimal_injective (width : Nat) : Function.Injective (hexadecimal width) := by
  intro left right equal
  rw [← hexadecimalValue_hexadecimal width left, equal, hexadecimalValue_hexadecimal]

/-- What holds of each digit holds of all that is written for a number. -/
theorem forall_mem_hexadecimal {property : CodePoint → Prop}
    (digits : ∀ digit : Fin 16, property (.char digit.val.digitChar)) (width number : Nat) :
    ∀ codePoint ∈ hexadecimal width number, property codePoint := by
  have written (number : Nat) :
      ∀ codePoint ∈ (Nat.toDigits 16 number).map CodePoint.char, property codePoint := by
    induction number using Nat.strongRecOn with
    | ind number induction =>
        by_cases small : number < 16
        · rw [Nat.toDigits_of_lt_base small]
          exact List.forall_mem_singleton.mpr (digits ⟨number, small⟩)
        · rw [Nat.toDigits_of_base_le (by decide) (Nat.le_of_not_lt small), List.map_append,
            List.forall_mem_append]
          exact ⟨induction _ (by omega),
            List.forall_mem_singleton.mpr (digits ⟨number % 16, Nat.mod_lt _ (by decide)⟩)⟩
  rw [hexadecimal, List.forall_mem_append]
  refine ⟨?_, written number⟩
  intro codePoint member
  rw [List.eq_of_mem_replicate member]
  exact digits 0

theorem hexadecimal_isPlain (width number : Nat) : IsPlain (hexadecimal width number) :=
  forall_mem_hexadecimal (by decide) width number

end Text

end ShareProvisioner
