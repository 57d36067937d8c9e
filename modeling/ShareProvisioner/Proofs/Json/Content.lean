import ShareProvisioner.Json.Value

/-!
# What values say

A value that says something is shown by a text that does too.
-/

namespace ShareProvisioner

theorem Text.ofNat_ne_nil (number : Nat) : Text.ofNat number ≠ [] := by
  simp [Text.ofNat, Nat.toDigits_ne_nil]

theorem Binary64.layout_ne_nil (decimal : Decimal) : layout decimal ≠ [] := by
  unfold layout
  dsimp only
  split
  · split
    · simp [Text.ofString]
    · split <;> simp [Text.ofString]
  · by_cases negative : decimal.exponent + ((Text.ofNat decimal.digits).length : Int) - 1 < 0 <;>
      simp [powerText, Text.ofString, negative]

theorem Binary64.display_ne_nil (value : Binary64) : value.display ≠ [] := by
  cases value with
  | finite negative mantissa exponent =>
      cases negative with
      | true => exact List.cons_ne_nil _ _
      | false =>
          by_cases zero : mantissa = 0
          · simp [display, zero, Text.ofString]
          · simpa [display, zero] using layout_ne_nil _
  | infinity negative => cases negative <;> simp [display, Text.ofString]
  | nan => simp [display, Text.ofString]

namespace Json

def IsText (value : Json) : Prop :=
  ∃ text, value = .text text

theorem IsText.orElse {value default : Json} (isText : value.IsText)
    (defaultIsText : default.IsText) : (value.orElse default).IsText := by
  unfold Json.orElse
  split
  · exact isText
  · exact defaultIsText

@[simp] theorem display_text (value : Text) : (text value).display = value := rfl

@[simp] theorem isTruthy_text (value : Text) : (text value).isTruthy = !value.isEmpty := rfl

/-- The values that say nothing; there is a zero for each sign and exponent. -/
inductive SaysNothing : Json → Prop
  | null : SaysNothing .null
  | falsity : SaysNothing (.bool false)
  | integer : SaysNothing (.integer 0)
  | float (negative : Bool) (exponent : Int) : SaysNothing (.float (.finite negative 0 exponent))
  | text : SaysNothing (.text [])
  | array : SaysNothing (.array [])
  | object : SaysNothing (.object [])

theorem isTruthy_eq_false_iff {value : Json} : value.isTruthy = false ↔ value.SaysNothing := by
  constructor
  · intro silent
    cases value with
    | null => exact .null
    | bool value =>
        cases silent
        exact .falsity
    | integer value =>
        have zero : value = 0 := by simpa [isTruthy] using silent
        exact zero ▸ .integer
    | float value =>
        cases value with
        | finite negative mantissa exponent =>
            have zero : mantissa = 0 := by simpa [isTruthy, Binary64.isZero] using silent
            exact zero ▸ .float negative exponent
        | infinity negative => cases silent
        | nan => cases silent
    | text value =>
        have empty : value = [] := by simpa [isTruthy] using silent
        exact empty ▸ .text
    | array items =>
        have empty : items = [] := by simpa [isTruthy] using silent
        exact empty ▸ .array
    | object members =>
        have empty : members = [] := by simpa [isTruthy] using silent
        exact empty ▸ .object
  · rintro (_ | _ | _ | ⟨negative, exponent⟩ | _ | _ | _) <;> rfl

theorem orElse_of_isTruthy {value default : Json} (truthy : value.isTruthy = true) :
    value.orElse default = value := if_pos truthy

theorem orElse_of_silent {value default : Json} (silent : value.isTruthy = false) :
    value.orElse default = default := if_neg (Bool.eq_false_iff.mp silent)

theorem isTruthy_orElse_null (value : Json) : (value.orElse .null).isTruthy = value.isTruthy := by
  cases truthy : value.isTruthy with
  | false => rw [orElse_of_silent truthy]; rfl
  | true => rw [orElse_of_isTruthy truthy, truthy]

theorem display_ne_nil {value : Json} (truthy : value.isTruthy = true) : value.display ≠ [] := by
  cases value with
  | null => cases truthy
  | bool value => cases value <;> simp [display, quoted, displayBool, Text.ofString]
  | integer value =>
      cases value with
      | ofNat number => exact Text.ofNat_ne_nil number
      | negSucc number => exact List.cons_ne_nil _ _
  | float value => exact value.display_ne_nil
  | text value => simpa using truthy
  | array items => simp [display, quoted, Text.ofString]
  | object members => simp [display, quoted, Text.ofString]

end Json

end ShareProvisioner
