import ShareProvisioner.Decimal.Shortest
import ShareProvisioner.Proofs.Text.Plain
import ShareProvisioner.Proofs.Text.Visible

/-!
# Texts without lone surrogates

Only a text without lone surrogates can be sent.  What is joined from such texts is one
again, and so are all numerals; a quoted text is one whatever it quotes, since quoting
escapes everything that cannot be seen.
-/

namespace ShareProvisioner

@[simp] theorem CodePoint.isScalar_char (value : Char) : (char value).isScalar = true := rfl

namespace Text

section Parts

variable {text part : Text}

theorem isScalar_iff : text.isScalar = true ↔ ∀ codePoint ∈ text, codePoint.isScalar = true :=
  List.all_eq_true

@[simp] theorem isScalar_nil : isScalar [] = true := rfl

@[simp] theorem isScalar_cons (first : CodePoint) (rest : Text) :
    isScalar (first :: rest) = (first.isScalar && isScalar rest) := rfl

@[simp] theorem isScalar_append (left right : Text) :
    isScalar (left ++ right) = (left.isScalar && right.isScalar) :=
  List.all_append

@[simp] theorem isScalar_map_char (values : List Char) : isScalar (values.map .char) = true := by
  simp [isScalar_iff]

@[simp] theorem isScalar_ofString (string : String) : (ofString string).isScalar = true :=
  isScalar_map_char _

theorem isScalar_of_subset (scalar : text.isScalar = true) (subset : part ⊆ text) :
    part.isScalar = true :=
  isScalar_iff.mpr fun codePoint member => isScalar_iff.mp scalar codePoint (subset member)

theorem isScalar_join {separator : Text} (separatorScalar : separator.isScalar = true)
    {parts : List Text} (scalar : ∀ part ∈ parts, part.isScalar = true) :
    (join separator parts).isScalar = true := by
  unfold join
  induction parts with
  | nil => rfl
  | cons first rest induction =>
      have restScalar := induction fun part member => scalar part (List.mem_cons_of_mem _ member)
      cases rest with
      | nil => simpa using scalar first (by simp)
      | cons second rest =>
          rw [List.intercalate_cons_cons]
          simp [scalar first (by simp), separatorScalar, restScalar]

end Parts

/-! ## Numerals -/

@[simp] theorem isScalar_ofNat (number : Nat) : (ofNat number).isScalar = true :=
  isScalar_map_char _

@[simp] theorem isScalar_ofInt (number : Int) : (ofInt number).isScalar = true := by
  cases number with
  | ofNat number => exact isScalar_ofNat number
  | negSucc number => exact isScalar_ofNat (number + 1)

/-! ## Texts that can be seen -/

theorem IsVisible.isScalar {text : Text} (visible : text.IsVisible) : text.isScalar = true :=
  isScalar_iff.mpr fun codePoint member =>
    CodePoint.isScalar_of_isPrintable (visible codePoint member)

@[simp] theorem isScalar_hexadecimal (width number : Nat) :
    (hexadecimal width number).isScalar = true :=
  (isVisible_hexadecimal width number).isScalar

@[simp] theorem isScalar_quoted (text : Text) : text.quoted.isScalar = true :=
  (isVisible_quoted text).isScalar

end Text

/-! ## Floating point numbers -/

namespace Binary64

@[simp] theorem isScalar_zeros (count : Nat) : (zeros count).isScalar = true :=
  Text.isScalar_iff.mpr fun codePoint member => by rw [List.eq_of_mem_replicate member]; rfl

theorem isScalar_powerText (power : Int) : (powerText power).isScalar = true := by
  unfold powerText
  split <;> simp

theorem isScalar_layout (decimal : Decimal) : (layout decimal).isScalar = true := by
  have digits := Text.isScalar_ofNat decimal.digits
  have taken (count : Nat) : Text.isScalar ((Text.ofNat decimal.digits).take count) = true :=
    Text.isScalar_of_subset digits (List.take_subset _ _)
  have dropped (count : Nat) : Text.isScalar ((Text.ofNat decimal.digits).drop count) = true :=
    Text.isScalar_of_subset digits (List.drop_subset _ _)
  unfold layout
  dsimp only
  split
  · split
    · simp
    · split
      · simp [taken, dropped]
      · simp
  · split
    · simp [taken, isScalar_powerText]
    · simp only [Text.isScalar_append, Text.isScalar_cons, taken, dropped, isScalar_powerText,
        CodePoint.isScalar_char, Bool.and_self]

@[simp] theorem isScalar_display (value : Binary64) : value.display.isScalar = true := by
  cases value with
  | finite negative mantissa exponent =>
      have magnitude : Text.isScalar
          (if mantissa = 0 then "0.0" else layout (Decimal.shortest mantissa exponent)) = true := by
        split
        · simp
        · exact isScalar_layout _
      cases negative with
      | true => exact magnitude
      | false => exact magnitude
  | infinity negative => cases negative <;> simp [display]
  | nan => simp [display]

end Binary64

end ShareProvisioner
