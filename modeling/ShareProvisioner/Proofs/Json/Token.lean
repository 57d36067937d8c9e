import ShareProvisioner.Proofs.Json.Number
import ShareProvisioner.Proofs.Json.Spelling

/-!
# Finding tokens

A token is found at the front of a document if and only if the grammar has one there, and
between tokens there is nothing but white space.
-/

namespace ShareProvisioner.Json

/-! ## Tokens -/

/-- What is written for a token. -/
inductive WritesToken : Token → Text → Prop
  | openObject : WritesToken .openObject [.char '\x7b']
  | closeObject : WritesToken .closeObject [.char '\x7d']
  | openArray : WritesToken .openArray [.char '[']
  | closeArray : WritesToken .closeArray [.char ']']
  | colon : WritesToken .colon [.char ':']
  | comma : WritesToken .comma [.char ',']
  | text {value written : Text} (spells : Spells value written) :
      WritesToken (.text value) (.char '"' :: (written ++ [.char '"']))
  | scalar {value : Json} {written : Text} (writesScalar : WritesScalar value written) :
      WritesToken (.scalar value) written

/-- Whether nothing can be made of a token. -/
inductive Token.IsBroken : Token → Prop
  | text (problem : Problem) (offset : Nat) : IsBroken (.brokenText problem offset)
  | numeral (digits : Nat) : IsBroken (.longNumeral digits)
  | stray : IsBroken .stray

section Tokens

variable {first : CodePoint} {written rest : Text} {value : Json}

theorem front_text {value : Text} {count : Nat} (scanned : scanText 1 rest = .ok (value, count)) :
    front (.char '"') rest = (.text value, count) := by
  simp only [front, scanned]

theorem front_word {word : Text} (isWord : (word, value) ∈ words) :
    ∃ first others, word = first :: others
      ∧ ∀ rest, front first (others ++ rest) = (.scalar value, others.length) := by
  simp only [words, List.mem_cons, List.not_mem_nil, or_false, Prod.mk.injEq] at isWord
  rcases isWord with ⟨rfl, rfl⟩ | ⟨rfl, rfl⟩ | ⟨rfl, rfl⟩ | ⟨rfl, rfl⟩ | ⟨rfl, rfl⟩ | ⟨rfl, rfl⟩
  · exact ⟨_, _, rfl, fun rest => rfl⟩
  · exact ⟨_, _, rfl, fun rest => rfl⟩
  · exact ⟨_, _, rfl, fun rest => rfl⟩
  · exact ⟨_, _, rfl, fun rest => rfl⟩
  · exact ⟨_, _, rfl, fun rest => rfl⟩
  · exact ⟨_, _, rfl, fun rest => rfl⟩

/-- Whether a text starts with a digit, behind a minus sign or not. -/
def startsNumber : Text → Bool
  | .char '-' :: digit :: _ => digit.isDecimal
  | digit :: _ => digit.isDecimal
  | [] => false

theorem startsNumber_word {word : Text} (isWord : (word, value) ∈ words) (rest : Text) :
    startsNumber (word ++ rest) = false := by
  simp only [words, List.mem_cons, List.not_mem_nil, or_false, Prod.mk.injEq] at isWord
  rcases isWord with ⟨rfl, _⟩ | ⟨rfl, _⟩ | ⟨rfl, _⟩ | ⟨rfl, _⟩ | ⟨rfl, _⟩ | ⟨rfl, _⟩ <;> rfl

theorem front_number (isNumber : startsNumber (first :: rest) = true) {token : Token} {count : Nat}
    (found : (if first = .char '-' then scanNumber? true rest
      else (scanNumber? false (first :: rest)).map fun (token, count) => (token, count - 1))
        = some (token, count)) :
    front first rest = (token, count) := by
  have noWord : (words.find? fun entry => entry.1.isPrefixOf (first :: rest)) = none := by
    rw [List.find?_eq_none]
    rintro ⟨word, value⟩ isWord starts
    rcases List.isPrefixOf_iff_prefix.mp starts with ⟨others, begins⟩
    rw [← begins, startsNumber_word isWord] at isNumber
    cases isNumber
  unfold front
  split
  case h_8 =>
    rw [noWord]
    dsimp only
    rw [found]
  all_goals cases isNumber

theorem WritesNumber.exists_digit {negative : Bool}
    (writesNumber : WritesNumber negative value written) :
    ∃ digit others, written = digit :: others ∧ digit.isDecimal = true := by
  have ofWhole {whole : Text} (isWhole : IsWhole whole) :
      ∃ digit others, whole = digit :: others ∧ digit.isDecimal = true := by
    cases isWhole with
    | zero => exact ⟨_, _, rfl, rfl⟩
    | digits isDigits _ => exact ⟨_, _, rfl, isDigits.2 _ List.mem_cons_self⟩
  cases writesNumber with
  | integer isWhole _ => exact ofWhole isWhole
  | float isWhole _ _ _ =>
      rcases ofWhole isWhole with ⟨digit, others, rfl, isDigit⟩
      exact ⟨digit, _, rfl, isDigit⟩

theorem front_scalar (writesScalar : WritesScalar value written) (ends : EndsNumber rest) :
    ∃ first others, written = first :: others
      ∧ front first (others ++ rest) = (.scalar value, others.length) := by
  cases writesScalar with
  | word isWord =>
      rcases front_word isWord with ⟨first, others, same, inFront⟩
      exact ⟨first, others, same, inFront rest⟩
  | positive number =>
      have scanned := scanNumber?_of_writesNumber number ends
      rcases number.exists_digit with ⟨digit, others, rfl, isDigit⟩
      have noMinus : digit ≠ .char '-' := by
        rintro rfl
        cases isDigit
      have isNumber : startsNumber (digit :: (others ++ rest)) = true := by
        rw [startsNumber.eq_2 _ _ fun _ _ same => absurd same noMinus]
        exact isDigit
      refine ⟨digit, others, rfl, front_number isNumber ?_⟩
      rw [if_neg noMinus]
      rw [List.cons_append] at scanned
      rw [scanned]
      rfl
  | negative number =>
      have scanned := scanNumber?_of_writesNumber number ends
      rcases number.exists_digit with ⟨digit, others, rfl, isDigit⟩
      have isNumber : startsNumber (.char '-' :: digit :: (others ++ rest)) = true := isDigit
      exact ⟨_, _, rfl, front_number isNumber scanned⟩

/-- A token is found where it is written, whatever follows, unless that might continue a
number. -/
theorem front_of_writesToken {token : Token} (writesToken : WritesToken token written)
    (ends : ∀ value, token = .scalar value → EndsNumber rest) :
    ∃ first others, written = first :: others
      ∧ front first (others ++ rest) = (token, others.length) := by
  cases writesToken with
  | openObject => exact ⟨_, _, rfl, rfl⟩
  | closeObject => exact ⟨_, _, rfl, rfl⟩
  | openArray => exact ⟨_, _, rfl, rfl⟩
  | closeArray => exact ⟨_, _, rfl, rfl⟩
  | colon => exact ⟨_, _, rfl, rfl⟩
  | comma => exact ⟨_, _, rfl, rfl⟩
  | @text value written spells =>
      refine ⟨_, _, rfl, front_text ?_⟩
      rw [List.append_assoc, List.singleton_append, scanText_of_spells spells,
        List.length_append, List.length_singleton]
  | scalar writesScalar => exact front_scalar writesScalar (ends _ rfl)

/-- What is found in front of a text is written there, unless nothing can be made of it. -/
theorem writesToken_of_front (first : CodePoint) (rest : Text) :
    (front first rest).1.IsBroken
      ∨ ∃ written, first :: rest = written ++ rest.drop (front first rest).2
        ∧ WritesToken (front first rest).1 written := by
  unfold front
  split
  · exact .inr ⟨_, rfl, .openObject⟩
  · exact .inr ⟨_, rfl, .closeObject⟩
  · exact .inr ⟨_, rfl, .openArray⟩
  · exact .inr ⟨_, rfl, .closeArray⟩
  · exact .inr ⟨_, rfl, .colon⟩
  · exact .inr ⟨_, rfl, .comma⟩
  · cases scanned : scanText 1 rest with
    | error problem => exact .inl (.text _ _)
    | ok found =>
        rcases spells_of_scanText scanned with ⟨written, behind, rfl, counted, spells⟩
        refine .inr ⟨_, ?_, .text spells⟩
        have dropped : (written ++ [CodePoint.char '"'] ++ behind).drop (written.length + 1)
            = behind := List.drop_left' (by rw [List.length_append, List.length_singleton])
        rw [List.append_assoc, List.singleton_append] at dropped
        dsimp only
        rw [counted, dropped, List.cons_append, List.append_assoc, List.singleton_append]
  · cases isWord : words.find? fun entry => entry.1.isPrefixOf (first :: rest) with
    | some found =>
        rcases found with ⟨word, value⟩
        have starts := List.find?_some isWord
        have member := List.mem_of_find?_eq_some isWord
        rcases List.isPrefixOf_iff_prefix.mp starts with ⟨behind, begins⟩
        rcases front_word member with ⟨letter, others, rfl, _⟩
        rw [List.cons_append] at begins
        rcases List.cons.inj begins with ⟨rfl, rfl⟩
        refine .inr ⟨_, ?_, .scalar (.word member)⟩
        dsimp only
        rw [List.length_cons, Nat.add_sub_cancel, List.drop_left, List.cons_append]
    | none =>
        dsimp only
        split
        · next scanned found =>
            rcases scanned with ⟨token, count⟩
            split at found
            · next isMinus =>
                cases isMinus
                rcases writesNumber_of_scanNumber? found with
                  ⟨digits, rfl⟩ | ⟨value, written, behind, rfl, rfl, rfl, number⟩
                · exact .inl (.numeral digits)
                · refine .inr ⟨_, ?_, .scalar (.negative number)⟩
                  rw [List.drop_left, List.cons_append]
            · rcases Option.map_eq_some_iff.mp found with ⟨⟨token, count⟩, scanned, same⟩
              cases same
              rcases writesNumber_of_scanNumber? scanned with
                ⟨digits, rfl⟩ | ⟨value, written, behind, rfl, begins, rfl, number⟩
              · exact .inl (.numeral digits)
              · rcases number.exists_digit with ⟨digit, others, rfl, _⟩
                rw [List.cons_append] at begins
                rcases List.cons.inj begins with ⟨rfl, rfl⟩
                refine .inr ⟨_, ?_, .scalar (.positive number)⟩
                dsimp only
                rw [List.length_cons, Nat.add_sub_cancel, List.drop_left, List.cons_append]
        · exact .inl .stray

end Tokens

/-! ## Sequences of tokens -/

/-- The tokens of a document, wherever they are. -/
def lex (document : Text) : List Token :=
  (tokens document).map Placed.token

section Sequences

variable {first : CodePoint} {written rest : Text}

/-- Positions and code points that have been read are of no account for what follows. -/
theorem map_tokensFrom (position other pending : Nat) (text : Text) :
    (tokensFrom position pending text).map Placed.token
      = (tokensFrom other 0 (text.drop pending)).map Placed.token := by
  induction text generalizing position other pending with
  | nil => simp [tokensFrom]
  | cons first rest induction =>
      cases pending with
      | succ pending => exact induction (position + 1) other pending
      | zero =>
          rw [List.drop_zero, tokensFrom, tokensFrom]
          dsimp only
          split
          · exact induction (position + 1) (other + 1) 0
          · rw [List.map_cons, List.map_cons, induction (position + 1) 0,
              induction (other + 1) 0]

theorem lex_nil : lex [] = [] := rfl

theorem lex_space (space : isSpace first = true) (rest : Text) : lex (first :: rest) = lex rest := by
  unfold lex tokens
  rw [tokensFrom, if_pos space]
  exact map_tokensFrom 1 0 0 rest

theorem lex_front (noSpace : isSpace first ≠ true) (rest : Text) :
    lex (first :: rest) = (front first rest).1 :: lex (rest.drop (front first rest).2) := by
  unfold lex tokens
  rw [tokensFrom, if_neg noSpace]
  dsimp only
  rw [List.map_cons, map_tokensFrom 1 0]

theorem lex_spaces {spaces : Text} (isSpaces : IsSpaces spaces) (rest : Text) :
    lex (spaces ++ rest) = lex rest := by
  induction spaces with
  | nil => rfl
  | cons first others induction =>
      rw [List.cons_append, lex_space (isSpaces _ List.mem_cons_self),
        induction fun codePoint member => isSpaces codePoint (List.mem_cons_of_mem _ member)]

/-- No token starts with white space. -/
theorem front_of_isSpace (space : isSpace first = true) (rest : Text) :
    front first rest = (.stray, rest.length) := by
  simp only [isSpace, Bool.or_eq_true, decide_eq_true_eq] at space
  rcases space with ((rfl | rfl) | rfl) | rfl <;> rfl

theorem lex_token {token : Token} (writesToken : WritesToken token written)
    (ends : ∀ value, token = .scalar value → EndsNumber rest) :
    lex (written ++ rest) = token :: lex rest := by
  rcases front_of_writesToken writesToken ends with ⟨first, others, rfl, inFront⟩
  have noSpace : isSpace first ≠ true := by
    intro space
    rw [front_of_isSpace space] at inFront
    cases (Prod.mk.inj inFront).1
    cases writesToken
  rw [List.cons_append, lex_front noSpace, inFront, List.drop_left]

end Sequences

end ShareProvisioner.Json
