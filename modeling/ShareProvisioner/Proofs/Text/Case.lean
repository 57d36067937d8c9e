import ShareProvisioner.Text.Case

/-!
# Spellings of a word

A text that has an ASCII word for its small letters need not be in ASCII itself: the sign for
kelvin becomes a k.  This is the only such case.  Every other letter beyond ASCII leaves something
beyond ASCII in small letters, so a word without a k is spelled by ASCII letters only.
-/

namespace ShareProvisioner

namespace CodePoint

/-- Whether nothing beyond ASCII becomes this code point in small letters. -/
def isUnmistakable (codePoint : CodePoint) : Bool :=
  codePoint.isAscii && codePoint ≠ .char 'k'

theorem toNat_of_ofNat? {number : Nat} {codePoint : CodePoint}
    (found : ofNat? number = some codePoint) : codePoint.toNat = number := by
  unfold ofNat? at found
  by_cases valid : number.isValidChar
  · rw [dif_pos valid] at found
    cases found
    rfl
  · rw [dif_neg valid] at found
    split at found
    · next isSurrogate =>
        cases found
        change 0xD800 + (number - 0xD800) = number
        omega
    · cases found

theorem isAscii_asciiLower (codePoint : CodePoint) :
    codePoint.asciiLower.isAscii = codePoint.isAscii := by
  cases codePoint with
  | surrogate offset => rfl
  | char value =>
      change decide (value.toLower.val.toNat < 0x80) = decide (value.val.toNat < 0x80)
      unfold Char.toLower
      split
      · next capital =>
          have atMost : value.val.toNat ≤ 0x5A := UInt32.le_iff_toNat_le.mp capital.2
          have moved : (value.val + 0x20).toNat = value.val.toNat + 0x20 := by
            rw [UInt32.toNat_add]
            change (value.val.toNat + 0x20) % 2 ^ 32 = value.val.toNat + 0x20
            omega
          refine decide_eq_decide.mpr ?_
          change (value.val + 0x20).toNat < 0x80 ↔ value.val.toNat < 0x80
          omega
      · rfl

/-- The runs of capital letters do not lead back to ASCII, but for the sign for kelvin. -/
theorem small_of_capitalRun :
    ∀ run ∈ capitalRuns, 0x80 ≤ run.small ∨ run = ⟨0x212A, 0x212A, 1, 0x6B⟩ := by
  decide +kernel

theorem smallLetter_mistakable {codePoint : CodePoint} (foreign : codePoint.isAscii = false) :
    codePoint.smallLetter.isUnmistakable = false := by
  have stays : codePoint.isUnmistakable = false := by simp [isUnmistakable, foreign]
  unfold smallLetter
  rw [if_neg (by simp [foreign])]
  split
  · next run isRun =>
      cases small : ofNat? (run.small + (codePoint.toNat - run.first)) with
      | none => exact stays
      | some letter =>
          have number := toNat_of_ofNat? small
          rcases small_of_capitalRun run (List.mem_of_find?_eq_some isRun) with beyond | rfl
          · have foreignLetter : ¬letter.toNat < 0x80 := by omega
            simp [isUnmistakable, isAscii, foreignLetter]
          · have holds := List.find?_some isRun
            simp only [CapitalRun.holds, Bool.and_eq_true, decide_eq_true_eq] at holds
            have isKelvin : codePoint.toNat - 0x212A = 0 := by omega
            rw [isKelvin] at small
            cases small
            rfl
  · exact stays

end CodePoint

namespace Text

/-- Small ASCII letters in place of capital ones. -/
def foldCase (text : Text) : Text :=
  text.map CodePoint.asciiLower

theorem smallForm_of_isAscii {codePoint : CodePoint} (ascii : codePoint.isAscii = true)
    (before after : Text) : smallForm before codePoint after = [codePoint.asciiLower] := by
  have notSigma : codePoint ≠ .char 'Σ' := by
    rintro rfl
    cases ascii
  have notDotted : codePoint ≠ .char 'İ' := by
    rintro rfl
    cases ascii
  unfold smallForm CodePoint.smallLetter
  rw [if_neg notSigma, if_neg notDotted, if_pos ascii]

/-- What is beyond ASCII leaves a trace in small letters. -/
theorem exists_mistakable {codePoint : CodePoint} (foreign : codePoint.isAscii = false)
    (before after : Text) :
    ∃ letter ∈ smallForm before codePoint after, letter.isUnmistakable = false := by
  unfold smallForm
  split
  · split
    · exact ⟨_, List.mem_singleton_self _, by decide⟩
    · exact ⟨_, List.mem_singleton_self _, by decide⟩
  · split
    · exact ⟨.char '\u0307', by simp, by decide⟩
    · exact ⟨_, List.mem_singleton_self _, CodePoint.smallLetter_mistakable foreign⟩

theorem lowerAfter_of_isAscii {text : Text} (ascii : ∀ codePoint ∈ text, codePoint.isAscii = true)
    (before : Text) : lowerAfter before text = text.foldCase := by
  unfold foldCase
  induction text generalizing before with
  | nil => rfl
  | cons first rest induction =>
      rcases List.forall_mem_cons.mp ascii with ⟨firstAscii, restAscii⟩
      rw [lowerAfter, smallForm_of_isAscii firstAscii, induction restAscii]
      rfl

theorem isAscii_of_lowerAfter {before text : Text}
    (unmistakable : ∀ letter ∈ lowerAfter before text, letter.isUnmistakable = true) :
    ∀ codePoint ∈ text, codePoint.isAscii = true := by
  induction text generalizing before with
  | nil => exact nofun
  | cons first rest induction =>
      rw [lowerAfter, List.forall_mem_append] at unmistakable
      refine List.forall_mem_cons.mpr ⟨?_, induction unmistakable.2⟩
      refine Bool.of_not_eq_false fun foreign => ?_
      rcases exists_mistakable foreign before rest with ⟨letter, member, mistakable⟩
      exact nomatch mistakable.symm.trans (unmistakable.1 letter member)

theorem isAscii_of_foldCase {text : Text}
    (ascii : ∀ letter ∈ text.foldCase, letter.isAscii = true) :
    ∀ codePoint ∈ text, codePoint.isAscii = true := by
  intro codePoint member
  rw [← CodePoint.isAscii_asciiLower]
  exact ascii _ (List.mem_map_of_mem member)

/-- Of all the letters there are, only those of ASCII spell an unmistakable word. -/
theorem lower_eq_iff {text word : Text}
    (unmistakable : ∀ letter ∈ word, letter.isUnmistakable = true) :
    text.lower = word ↔ text.foldCase = word := by
  constructor
  · rintro rfl
    exact (lowerAfter_of_isAscii (isAscii_of_lowerAfter unmistakable) []).symm
  · rintro rfl
    refine lowerAfter_of_isAscii (isAscii_of_foldCase fun letter member => ?_) []
    exact (Bool.and_eq_true_iff.mp (unmistakable letter member)).1

/-- The sign for kelvin is a capital k. -/
example : lower [.char '\u212A'] = [.char 'k'] ∧ foldCase [.char '\u212A'] ≠ [.char 'k'] := by
  decide

end Text

end ShareProvisioner
