import ShareProvisioner.Proofs.Text.Scalar
import ShareProvisioner.Text.Lines

/-!
# Normalized lines

Line ends are normalized part by part, as long as no part ends inside of one.  Nothing comes of it
but line feeds.
-/

namespace ShareProvisioner.Text

variable {first : CodePoint} {left right rest : Text}

theorem normalizeLines_cons (other : first ≠ .char '\r') (rest : Text) :
    normalizeLines (first :: rest) = first :: normalizeLines rest := by
  rw [normalizeLines]
  · intro following same
    cases same
    exact absurd rfl other
  · intro isReturn
    exact absurd isReturn other

theorem normalizeLines_return (noFeed : rest.head? ≠ some (.char '\n')) :
    normalizeLines (.char '\r' :: rest) = .char '\n' :: normalizeLines rest := by
  rw [normalizeLines]
  intro following same
  rw [same] at noFeed
  exact noFeed rfl

/-- Lines are normalized part by part, unless a line end is cut in two. -/
theorem normalizeLines_append (noFeed : right.head? ≠ some (.char '\n')) :
    normalizeLines (left ++ right) = normalizeLines left ++ normalizeLines right := by
  fun_induction normalizeLines left with
  | case1 rest induction =>
      rw [List.cons_append, List.cons_append, normalizeLines, induction, List.cons_append]
  | case2 rest noPair induction =>
      have noFeedBehind : (rest ++ right).head? ≠ some (.char '\n') := by
        cases rest with
        | nil => exact noFeed
        | cons first others =>
            intro isFeed
            exact noPair others (congrArg (· :: others) (Option.some.inj isFeed))
      rw [List.cons_append, normalizeLines_return noFeedBehind, induction, List.cons_append]
  | case3 first rest noPair other induction =>
      rw [List.cons_append, normalizeLines_cons other, induction, List.cons_append]
  | case4 => rfl

theorem normalizeLines_append_of_not_mem (absent : .char '\r' ∉ left) (right : Text) :
    normalizeLines (left ++ right) = left ++ normalizeLines right := by
  induction left with
  | nil => rfl
  | cons first rest induction =>
      rw [List.mem_cons, not_or] at absent
      rw [List.cons_append, normalizeLines_cons (Ne.symm absent.1), induction absent.2,
        List.cons_append]

theorem normalizeLines_of_not_mem {text : Text} (absent : .char '\r' ∉ text) :
    normalizeLines text = text := by
  have alone := normalizeLines_append_of_not_mem absent []
  rwa [List.append_nil, normalizeLines, List.append_nil] at alone

/-- What stands in normalized lines was there before, or ends a line. -/
theorem mem_normalizeLines {codePoint : CodePoint} {text : Text}
    (member : codePoint ∈ normalizeLines text) :
    codePoint = .char '\n' ∨ codePoint ∈ text := by
  fun_induction normalizeLines text with
  | case1 rest induction | case2 rest noPair induction | case3 first rest noPair other induction =>
      cases List.mem_cons.mp member with
      | inl isFirst => simp [isFirst]
      | inr isBehind =>
          cases induction isBehind with
          | inl isFeed => exact .inl isFeed
          | inr isThere => simp [isThere]
  | case4 => cases member

theorem isScalar_normalizeLines {text : Text} (scalar : text.isScalar = true) :
    text.normalizeLines.isScalar = true := by
  apply isScalar_iff.mpr
  intro codePoint member
  cases mem_normalizeLines member with
  | inl isFeed => rw [isFeed]; rfl
  | inr isThere => exact isScalar_iff.mp scalar codePoint isThere

end ShareProvisioner.Text
