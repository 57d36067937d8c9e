import ShareProvisioner.Proofs.Failure.Result
import ShareProvisioner.Proofs.Json.Grammar

/-!
# Finding texts

A text is found up to its closing quote, whatever follows, if and only if the grammar spells it
so.  Two escapes that could be one character are read as that character.
-/

namespace ShareProvisioner.Json

variable {codePoint first second third fourth : CodePoint} {value written rest : Text}

theorem scanText_plain (noControl : 0x20 ≤ codePoint.toNat) (noQuote : codePoint ≠ .char '"')
    (noEscape : codePoint ≠ .char '\\') (offset : Nat) (rest : Text) :
    scanText offset (codePoint :: rest)
      = (scanText (offset + 1) rest).map fun (value, count) => (codePoint :: value, count + 1) := by
  rw [scanText.eq_6 _ _ _ noQuote (fun escape => absurd escape noEscape)
    (fun _ _ _ _ _ escape => absurd escape noEscape) (fun _ _ escape => absurd escape noEscape),
    if_neg (Nat.not_lt.mpr noControl)]

theorem scanText_letter {letter : CodePoint} {character : Char}
    (named : letterEscape? letter = some character) (offset : Nat) (rest : Text) :
    scanText offset (.char '\\' :: letter :: rest)
      = (scanText (offset + 2) rest).map fun (value, count) =>
        (.char character :: value, count + 2) := by
  have noNumber : letter ≠ .char 'u' := by
    rintro rfl
    cases named
  rw [scanText.eq_5 _ _ _ (fun _ _ _ _ _ isNumber => absurd isNumber noNumber), named]

theorem scanText_number (named : hexCodePoint? first second third fourth = some codePoint)
    (nonempty : rest ≠ []) (offset : Nat) :
    scanText offset (.char '\\' :: .char 'u' :: first :: second :: third :: fourth :: rest)
      = (scanText (offset + 6) rest).map fun (value, count) =>
        (joinEscape codePoint (startsWithUnicodeEscape rest) value, count + 6) := by
  rw [scanText.eq_4, named]
  exact if_neg (by simpa using nonempty)

theorem startsWithUnicodeEscape_iff {text : Text} :
    startsWithUnicodeEscape text = true ↔ ∃ rest, text = .char '\\' :: .char 'u' :: rest := by
  constructor
  · intro starts
    unfold startsWithUnicodeEscape at starts
    split at starts
    · exact ⟨_, rfl⟩
    · cases starts
  · rintro ⟨rest, rfl⟩
    rfl

/-- A surrogate behind which an escape begins is itself escaped. -/
theorem Spells.exists_escape {offset : Fin 0x800}
    (spells : Spells (.surrogate offset :: value) written)
    (escapes : startsWithUnicodeEscape (written ++ .char '"' :: rest) = true) :
    ∃ first second third fourth following,
      written = .char '\\' :: .char 'u' :: first :: second :: third :: fourth :: following
        ∧ hexCodePoint? first second third fourth = some (.surrogate offset)
        ∧ Spells value following := by
  cases spells with
  | plain _ _ noEscape _ =>
      rcases startsWithUnicodeEscape_iff.mp escapes with ⟨following, begins⟩
      exact absurd (List.cons.inj begins).1 noEscape
  | number named _ spells => exact ⟨_, _, _, _, _, rfl, named, spells⟩

theorem joinEscape_pair {leading trailing : Fin 0x800} (isLeading : leading < 0x400)
    (isTrailing : 0x400 ≤ trailing) (value : Text) :
    joinEscape (.surrogate leading) true (.surrogate trailing :: value)
      = .char (Char.ofNat (0x10000 + 0x400 * leading.val + (trailing.val - 0x400))) :: value :=
  if_pos (by simp [isLeading, isTrailing])

/-- Without a cut pair there is nothing to join. -/
theorem joinEscape_whole (spells : Spells value written) (whole : ¬IsCutPair codePoint written)
    (rest : Text) :
    joinEscape codePoint (startsWithUnicodeEscape (written ++ .char '"' :: rest)) value
      = codePoint :: value := by
  unfold joinEscape
  split
  · next leading trailing following =>
      split
      · next joined =>
          simp only [Bool.and_eq_true, decide_eq_true_eq] at joined
          rcases joined with ⟨⟨escapes, isLeading⟩, isTrailing⟩
          rcases spells.exists_escape escapes with ⟨_, _, _, _, _, rfl, named, _⟩
          exact absurd (.intro isLeading named isTrailing) whole
      · rfl
  · rfl

theorem not_isCutPair_of_trailing {trailing : Fin 0x800} (isTrailing : 0x400 ≤ trailing)
    (written : Text) : ¬IsCutPair (.surrogate trailing) written := by
  intro cut
  cases cut with
  | intro isLeading _ _ => exact absurd isLeading (Fin.not_lt.mpr isTrailing)

theorem scanText_of_spells (spells : Spells value written) (offset : Nat) (rest : Text) :
    scanText offset (written ++ .char '"' :: rest) = .ok (value, written.length + 1) := by
  induction spells generalizing offset with
  | nil => rfl
  | plain noControl noQuote noEscape _ induction =>
      rw [List.cons_append, scanText_plain noControl noQuote noEscape, induction]
      rfl
  | letter named _ induction =>
      rw [List.cons_append, List.cons_append, scanText_letter named, induction]
      rfl
  | number named whole spells induction =>
      simp only [List.cons_append]
      rw [scanText_number named (by simp), induction]
      simp only [Except.map, joinEscape_whole spells whole, List.length_cons]
  | pair namesLeading isLeading namesTrailing isTrailing spells induction =>
      simp only [List.cons_append]
      rw [scanText_number namesLeading (by simp), scanText_number namesTrailing (by simp),
        induction]
      have alone := joinEscape_whole spells (not_isCutPair_of_trailing isTrailing _) rest
      simp only [Except.map, alone]
      exact congrArg (fun joined => Except.ok (joined, _))
        (joinEscape_pair isLeading isTrailing _)

theorem spells_joinEscape (named : hexCodePoint? first second third fourth = some codePoint)
    (spells : Spells value written) :
    Spells (joinEscape codePoint (startsWithUnicodeEscape (written ++ .char '"' :: rest)) value)
      (.char '\\' :: .char 'u' :: first :: second :: third :: fourth :: written) := by
  by_cases cut : IsCutPair codePoint written
  · cases cut with
    | @intro leading trailing _ _ _ _ following isLeading namesTrailing isTrailing =>
        cases spells with
        | plain _ _ noEscape _ => exact absurd rfl noEscape
        | letter named _ => cases named
        | number namesOther _ spells =>
            cases namesOther.symm.trans namesTrailing
            change Spells (joinEscape (.surrogate leading) true (.surrogate trailing :: _)) _
            rw [joinEscape_pair isLeading isTrailing]
            exact .pair named isLeading namesTrailing isTrailing spells
        | pair namesOther isOther _ _ spells =>
            cases namesOther.symm.trans namesTrailing
            exact absurd isOther (Fin.not_lt.mpr isTrailing)
  · rw [joinEscape_whole spells cut]
    exact .number named cut spells

theorem spells_of_scanText {offset count : Nat} {text : Text}
    (found : scanText offset text = .ok (value, count)) :
    ∃ written rest, text = written ++ .char '"' :: rest ∧ count = written.length + 1
      ∧ Spells value written := by
  fun_induction scanText offset text generalizing value count with
  | case1 | case3 | case4 | case5 | case8 | case9 | case10 => cases found
  | case2 offset rest =>
      cases found
      exact ⟨[], rest, rfl, rfl, .nil⟩
  | case6 offset first second third fourth rest codePoint named nonempty induction =>
      rcases Result.map_eq_ok_iff.mp found with ⟨⟨following, length⟩, scanned, same⟩
      cases same
      rcases induction scanned with ⟨written, rest, rfl, rfl, spells⟩
      exact ⟨_, rest, rfl, rfl, spells_joinEscape named spells⟩
  | case7 offset letter rest noNumber character named induction =>
      rcases Result.map_eq_ok_iff.mp found with ⟨⟨following, length⟩, scanned, same⟩
      cases same
      rcases induction scanned with ⟨written, rest, rfl, rfl, spells⟩
      exact ⟨_, rest, rfl, rfl, .letter named spells⟩
  | case11 offset codePoint rest noQuote notLast noNumber noLetter noControl induction =>
      rcases Result.map_eq_ok_iff.mp found with ⟨⟨following, length⟩, scanned, same⟩
      cases same
      rcases induction scanned with ⟨written, rest, rfl, rfl, spells⟩
      have noEscape : codePoint ≠ .char '\\' := by
        intro escape
        cases written with
        | nil => exact noLetter _ _ escape rfl
        | cons letter others => exact noLetter _ _ escape rfl
      exact ⟨_, rest, rfl, rfl, .plain (Nat.not_lt.mp noControl) noQuote noEscape spells⟩

end ShareProvisioner.Json
