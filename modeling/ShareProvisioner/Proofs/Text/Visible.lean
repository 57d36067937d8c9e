import ShareProvisioner.Proofs.Text.Hexadecimal
import ShareProvisioner.Text.Quoted

/-!
# Texts that can be seen

Quoting escapes everything that cannot be seen, and the escapes can be seen themselves.  So all of a
quoted text can be seen, whatever it quotes.
-/

namespace ShareProvisioner

/-- No surrogate can be seen. -/
theorem CodePoint.isScalar_of_isPrintable {codePoint : CodePoint}
    (printable : codePoint.isPrintable = true) : codePoint.isScalar = true := by
  cases codePoint with
  | char value => rfl
  | surrogate offset =>
      have number : (surrogate offset).toNat = 0xD800 + offset.val := rfl
      have above : ¬(surrogate offset).toNat < 0x80 := by omega
      have hidden : inRanges unprintableRanges (surrogate offset) = true := by
        refine List.any_eq_true.mpr ⟨(0xD7FC, 0xF8FF), by decide +kernel, ?_⟩
        have inside : 0xD7FC ≤ (surrogate offset).toNat ∧ (surrogate offset).toNat ≤ 0xF8FF := by
          omega
        simpa using inside
      rw [isPrintable, if_neg above, hidden] at printable
      cases printable

namespace Text

/-- Whether all of a text can be seen. -/
def IsVisible (text : Text) : Prop :=
  ∀ codePoint ∈ text, codePoint.isPrintable = true

instance (text : Text) : Decidable (IsVisible text) :=
  inferInstanceAs (Decidable (∀ codePoint ∈ text, codePoint.isPrintable = true))

theorem IsVisible.append {left right : Text} (leftVisible : left.IsVisible)
    (rightVisible : right.IsVisible) : (left ++ right).IsVisible :=
  List.forall_mem_append.mpr ⟨leftVisible, rightVisible⟩

theorem isVisible_hexadecimal (width number : Nat) : IsVisible (hexadecimal width number) :=
  forall_mem_hexadecimal (by decide) width number

theorem isVisible_escaped {quote : Char} (quoteVisible : (CodePoint.char quote).isPrintable = true)
    (codePoint : CodePoint) : IsVisible (escaped quote codePoint) := by
  have escape (mark : String) (markVisible : IsVisible mark) (width : Nat) :
      IsVisible (mark ++ hexadecimal width codePoint.toNat) :=
    markVisible.append (isVisible_hexadecimal width _)
  unfold escaped
  split
  · decide
  · decide
  · decide
  · decide
  · split
    · next isQuote =>
        rw [isQuote]
        exact List.forall_mem_cons.mpr ⟨by decide, List.forall_mem_singleton.mpr quoteVisible⟩
    · split
      · next printable => exact List.forall_mem_singleton.mpr printable
      · split
        · exact escape "\\x" (by decide) 2
        · split
          · exact escape "\\u" (by decide) 4
          · exact escape "\\U" (by decide) 8

theorem isVisible_quoted (text : Text) : text.quoted.IsVisible := by
  have quoteVisible : (CodePoint.char (quoteFor text)).isPrintable = true := by
    unfold quoteFor
    split <;> decide
  have escapes : IsVisible (text.flatMap (escaped (quoteFor text))) := by
    intro codePoint member
    obtain ⟨shown, _, inside⟩ := List.mem_flatMap.mp member
    exact isVisible_escaped quoteVisible shown codePoint inside
  exact List.forall_mem_append.mpr ⟨List.forall_mem_cons.mpr ⟨quoteVisible, escapes⟩,
    List.forall_mem_singleton.mpr quoteVisible⟩

end Text

end ShareProvisioner
