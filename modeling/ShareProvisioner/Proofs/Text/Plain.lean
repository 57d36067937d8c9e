import ShareProvisioner.Proofs.Failure.Result
import ShareProvisioner.Text.Blank
import ShareProvisioner.Text.Utf8

/-!
# Plain texts

A text is plain if it holds neither a NUL nor a lone surrogate.  Plainness depends on the
code points alone, so it passes to every part of a text.  Every plain text can be handed to
a process, and so can one in which surrogates stand for single octets.
-/

namespace ShareProvisioner

def Text.IsPlain (text : Text) : Prop :=
  ∀ codePoint ∈ text, codePoint ≠ .char '\x00' ∧ codePoint.isScalar = true

/-- Whether a code point has octets in a name for the operating system: a character has,
and the surrogates from U+DC80 to U+DCFF stand for one each. -/
def CodePoint.standsForOctets : CodePoint → Bool
  | char _ => true
  | surrogate offset => 0x480 ≤ offset.val && offset.val ≤ 0x4FF

/-- Whether the operating system takes a text, as the name of a file or for a process. -/
def Text.IsPassable (text : Text) : Prop :=
  ∀ codePoint ∈ text, codePoint ≠ .char '\x00' ∧ codePoint.standsForOctets = true

namespace Utf8

/-- Exactly the texts without lone surrogates can be encoded. -/
theorem encodeFrom_eq_ok_iff (text : Text) : ∀ position,
    (∃ octets, encodeFrom position text = .ok octets) ↔ ∀ codePoint ∈ text, codePoint.isScalar := by
  induction text with
  | nil => exact fun position => ⟨fun _ => by simp, fun _ => ⟨[], rfl⟩⟩
  | cons first rest induction =>
      intro position
      rw [List.forall_mem_cons]
      cases first with
      | surrogate offset => exact iff_of_false nofun fun scalar => nomatch scalar.1
      | char value =>
          rw [encodeFrom, Result.exists_map_eq_ok_iff, induction]
          exact (and_iff_right rfl).symm

/-- Exactly the texts all of whose code points stand for octets can be encoded as names. -/
theorem encodeNameFrom_eq_ok_iff (text : Text) : ∀ position,
    (∃ octets, encodeNameFrom position text = .ok octets)
      ↔ ∀ codePoint ∈ text, codePoint.standsForOctets = true := by
  induction text with
  | nil => exact fun position => ⟨fun _ => by simp, fun _ => ⟨[], rfl⟩⟩
  | cons first rest induction =>
      intro position
      rw [List.forall_mem_cons]
      cases first with
      | char value =>
          rw [encodeNameFrom, Result.exists_map_eq_ok_iff, induction]
          exact (and_iff_right rfl).symm
      | surrogate offset =>
          by_cases stands : (0x480 ≤ offset.val && offset.val ≤ 0x4FF) = true
          · rw [encodeNameFrom, if_pos stands, Result.exists_map_eq_ok_iff, induction]
            exact (and_iff_right stands).symm
          · rw [encodeNameFrom, if_neg stands]
            exact iff_of_false nofun fun all => stands all.1

end Utf8

namespace Text

instance (text : Text) : Decidable text.IsPlain :=
  inferInstanceAs (Decidable (∀ codePoint ∈ text, _))

instance (text : Text) : Decidable text.IsPassable :=
  inferInstanceAs (Decidable (∀ codePoint ∈ text, _))

example : ¬IsPlain [.surrogate 0x480] ∧ IsPassable [.surrogate 0x480] ∧ ¬IsPassable [.surrogate 0] := by
  decide

theorem IsPlain.isPassable {text : Text} (plain : text.IsPlain) : text.IsPassable := by
  intro codePoint member
  obtain ⟨noNul, scalar⟩ := plain codePoint member
  cases codePoint with
  | char value => exact ⟨noNul, rfl⟩
  | surrogate offset => cases scalar

theorem IsPlain.of_subset {part whole : Text} (plain : whole.IsPlain) (subset : part ⊆ whole) :
    part.IsPlain :=
  fun codePoint member => plain codePoint (subset member)

theorem IsPlain.append {left right : Text} (leftPlain : left.IsPlain) (rightPlain : right.IsPlain) :
    (left ++ right).IsPlain := by
  intro codePoint member
  rcases List.mem_append.mp member with inLeft | inRight
  · exact leftPlain codePoint inLeft
  · exact rightPlain codePoint inRight

theorem IsPlain.join {separator : Text} (separatorPlain : separator.IsPlain) {parts : List Text}
    (plain : ∀ part ∈ parts, part.IsPlain) : (Text.join separator parts).IsPlain := by
  unfold Text.join
  induction parts with
  | nil => simp [IsPlain]
  | cons first rest induction =>
      have restPlain := induction fun part member => plain part (List.mem_cons_of_mem _ member)
      cases rest with
      | nil => simpa using plain first (by simp)
      | cons second rest =>
          rw [List.intercalate_cons_cons]
          exact ((plain first (by simp)).append separatorPlain).append restPlain

theorem subset_of_mem_pieces (separator : CodePoint) {text piece : Text}
    (member : piece ∈ pieces separator text) : piece ⊆ text := by
  induction text generalizing piece with
  | nil => simp_all [pieces]
  | cons first rest induction =>
      unfold pieces at member
      split at member
      · rcases List.mem_cons.mp member with rfl | later
        · simp
        · exact List.subset_cons_of_subset _ (induction later)
      · split at member
        · simp_all
        · next head others cut =>
            rw [cut] at induction
            rcases List.mem_cons.mp member with rfl | later
            · exact List.cons_subset_cons _ (induction (by simp))
            · exact List.subset_cons_of_subset _ (induction (by simp [later]))

theorem strip_subset (text : Text) : text.strip ⊆ text := by
  intro codePoint member
  unfold strip trim trimRight at member
  have inReversed := (List.dropWhile_sublist _).subset (List.mem_reverse.mp member)
  exact (List.dropWhile_sublist _).subset (List.mem_reverse.mp inReversed)

end Text

end ShareProvisioner
