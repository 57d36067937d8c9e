import ShareProvisioner.Text.CodePoint

/-!
# Cutting and joining

A text is cut once at its first separator, so what comes before that holds none.  Joining the
pieces between all separators puts the separators back.  Conversely parts are the pieces of the
text that they are joined to, provided that no part holds a separator.
-/

namespace ShareProvisioner.Text

variable {separator : CodePoint}

theorem cut?_of_not_mem {text : Text} (absent : separator ∉ text) :
    cut? (· = separator) text = none := by
  induction text with
  | nil => rfl
  | cons first rest induction =>
      rw [List.mem_cons, not_or] at absent
      rw [cut?, if_neg (by simpa using Ne.symm absent.1), induction absent.2]
      rfl

theorem cut?_append {before : Text} (absent : separator ∉ before) (after : Text) :
    cut? (· = separator) (before ++ separator :: after) = some (before, after) := by
  induction before with
  | nil => exact if_pos (decide_eq_true rfl)
  | cons first rest induction =>
      rw [List.mem_cons, not_or] at absent
      rw [List.cons_append, cut?, if_neg (by simpa using Ne.symm absent.1), induction absent.2]
      rfl

theorem join_cons (separator first : Text) (rest : List Text) :
    join separator (first :: rest) = first ++ (rest.map (separator ++ ·)).flatten := by
  unfold join
  induction rest generalizing first with
  | nil => simp
  | cons second rest induction =>
      rw [List.intercalate_cons_cons, induction, List.map_cons, List.flatten_cons]
      simp only [List.append_assoc]

theorem mem_join {separator : Text} {parts : List Text} {codePoint : CodePoint}
    (member : codePoint ∈ join separator parts) :
    codePoint ∈ separator ∨ ∃ part ∈ parts, codePoint ∈ part := by
  cases parts with
  | nil => exact nomatch member
  | cons first rest =>
      rw [join_cons, List.mem_append, List.mem_flatten] at member
      rcases member with inFirst | ⟨part, isPart, inPart⟩
      · exact .inr ⟨first, List.mem_cons_self, inFirst⟩
      · rcases List.mem_map.mp isPart with ⟨later, isLater, rfl⟩
        rcases List.mem_append.mp inPart with inSeparator | inLater
        · exact .inl inSeparator
        · exact .inr ⟨later, List.mem_cons_of_mem _ isLater, inLater⟩

theorem pieces_ne_nil (text : Text) : pieces separator text ≠ [] := by
  cases text with
  | nil => exact List.cons_ne_nil _ _
  | cons first rest =>
      unfold pieces
      split
      · exact List.cons_ne_nil _ _
      · split
        · exact List.cons_ne_nil _ _
        · exact List.cons_ne_nil _ _

theorem pieces_cons_separator (rest : Text) :
    pieces separator (separator :: rest) = [] :: pieces separator rest :=
  if_pos rfl

theorem pieces_cons_other {first : CodePoint} (other : first ≠ separator) {rest piece : Text}
    {pieces' : List Text} (cut : pieces separator rest = piece :: pieces') :
    pieces separator (first :: rest) = (first :: piece) :: pieces' := by
  rw [pieces, if_neg other, cut]

theorem join_pieces (text : Text) : join [separator] (pieces separator text) = text := by
  induction text with
  | nil => rfl
  | cons first rest induction =>
      obtain ⟨piece, others, cut⟩ := List.exists_cons_of_ne_nil (@pieces_ne_nil separator rest)
      rw [cut, join_cons] at induction
      by_cases same : first = separator
      · subst same
        rw [pieces_cons_separator, cut, join_cons, List.map_cons, List.flatten_cons,
          List.append_assoc, induction]
        rfl
      · rw [pieces_cons_other same cut, join_cons, List.cons_append, induction]

/-- A separator cuts a text into what can be cut on its own. -/
theorem pieces_append_separator (before after : Text) :
    pieces separator (before ++ separator :: after)
      = pieces separator before ++ pieces separator after := by
  induction before with
  | nil => exact pieces_cons_separator after
  | cons first rest induction =>
      obtain ⟨piece, others, cut⟩ := List.exists_cons_of_ne_nil (@pieces_ne_nil separator rest)
      rw [cut, List.cons_append] at induction
      by_cases same : first = separator
      · subst same
        rw [List.cons_append, pieces_cons_separator, pieces_cons_separator, induction, cut]
        rfl
      · rw [List.cons_append, pieces_cons_other same induction, pieces_cons_other same cut]
        rfl

theorem not_mem_of_mem_pieces {text piece : Text} (member : piece ∈ pieces separator text) :
    separator ∉ piece := by
  induction text generalizing piece with
  | nil =>
      rw [List.mem_singleton.mp member]
      exact List.not_mem_nil
  | cons first rest induction =>
      obtain ⟨head, others, cut⟩ := List.exists_cons_of_ne_nil (@pieces_ne_nil separator rest)
      by_cases same : first = separator
      · subst same
        rw [pieces_cons_separator, List.mem_cons] at member
        cases member with
        | inl empty => rw [empty]; exact List.not_mem_nil
        | inr later => exact induction later
      · rw [pieces_cons_other same cut, List.mem_cons] at member
        cases member with
        | inl isFirst =>
            have headWhole := induction (cut ▸ List.mem_cons_self)
            rw [isFirst, List.mem_cons, not_or]
            exact ⟨Ne.symm same, headWhole⟩
        | inr later => exact induction (cut ▸ List.mem_cons_of_mem _ later)

theorem pieces_of_not_mem {text : Text} (absent : separator ∉ text) :
    pieces separator text = [text] := by
  induction text with
  | nil => rfl
  | cons first rest induction =>
      rw [List.mem_cons, not_or] at absent
      exact pieces_cons_other (Ne.symm absent.1) (induction absent.2)

theorem pieces_join {parts : List Text} (nonempty : parts ≠ [])
    (whole : ∀ part ∈ parts, separator ∉ part) :
    pieces separator (join [separator] parts) = parts := by
  induction parts with
  | nil => exact absurd rfl nonempty
  | cons first rest induction =>
      have firstWhole := whole first List.mem_cons_self
      cases rest with
      | nil =>
          rw [join_cons, List.map_nil, List.flatten_nil, List.append_nil]
          exact pieces_of_not_mem firstWhole
      | cons second rest =>
          have restWhole := induction (List.cons_ne_nil _ _) fun part member =>
            whole part (List.mem_cons_of_mem _ member)
          have joined : join [separator] (first :: second :: rest)
              = first ++ separator :: join [separator] (second :: rest) := by
            simp [join_cons]
          rw [joined, pieces_append_separator, pieces_of_not_mem firstWhole, restWhole]
          rfl

end ShareProvisioner.Text
