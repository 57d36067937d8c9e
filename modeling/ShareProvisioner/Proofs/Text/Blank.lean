import Mathlib.Data.List.DropRight
import ShareProvisioner.Text.Blank

/-!
# Stripped texts

Stripping takes away all the white space at both ends and nothing else, so it leaves alone just
the texts that have none there.
-/

namespace ShareProvisioner.Text

/-- Whether a text has no white space at either end. -/
structure IsStripped (text : Text) : Prop where
  first : ∀ codePoint ∈ text.head?, codePoint.isBlank = false
  last : ∀ codePoint ∈ text.getLast?, codePoint.isBlank = false

theorem isStripped_strip (text : Text) : text.strip.IsStripped where
  first codePoint isFirst := by
    -- What is taken away behind leaves the first code point in its place.
    obtain ⟨taken, split⟩ : text.strip <+: text.dropWhile CodePoint.isBlank :=
      List.rdropWhile_prefix _ _
    obtain ⟨rest, begins⟩ := List.head?_eq_some_iff.mp isFirst
    rw [begins, List.cons_append] at split
    have bare := List.head?_dropWhile_not CodePoint.isBlank text
    rw [← split] at bare
    exact bare
  last codePoint isLast := by
    have nonempty : text.strip ≠ [] := by
      intro empty
      rw [empty] at isLast
      cases isLast
    have bare := List.rdropWhile_last_not CodePoint.isBlank _ nonempty
    rw [List.getLast?_eq_some_getLast nonempty] at isLast
    cases isLast
    exact Bool.eq_false_iff.mpr bare

theorem strip_eq_self_iff {text : Text} : text.strip = text ↔ text.IsStripped := by
  constructor
  · intro same
    exact same ▸ isStripped_strip text
  · intro stripped
    have before : text.dropWhile CodePoint.isBlank = text := by
      apply List.dropWhile_eq_self_iff.mpr
      intro nonempty blank
      have first := stripped.first _ (List.head?_eq_getElem? ▸ List.getElem?_eq_getElem nonempty)
      exact nomatch blank.symm.trans first
    have behind : text.rdropWhile CodePoint.isBlank = text := by
      apply List.rdropWhile_eq_self_iff.mpr
      intro nonempty blank
      have last := stripped.last _ (List.getLast?_eq_some_getLast nonempty)
      exact nomatch blank.symm.trans last
    rw [strip, trim, before]
    exact behind

end ShareProvisioner.Text
