import ShareProvisioner.Proofs.Json.Reader
import ShareProvisioner.Proofs.Text.Lines

/-!
# Line ends of a document

Line ends are white space, and no token holds one: what stands in a text for a line end is an
escape.  So a document denotes the same value however its lines end.
-/

namespace ShareProvisioner.Json

open Text (normalizeLines_cons normalizeLines_append normalizeLines_append_of_not_mem
  normalizeLines_of_not_mem)

/-! ## White space inside of tokens -/

theorem isSpace_of_isDecimal {digit : CodePoint} (isDigit : digit.isDecimal = true) :
    isSpace digit = false := by
  simp only [isSpace, Bool.or_eq_false_iff, decide_eq_false_iff_not]
  refine ⟨⟨⟨?_, ?_⟩, ?_⟩, ?_⟩
  all_goals
    intro same
    rw [same] at isDigit
    cases isDigit

theorem IsWhole.noSpace {whole : Text} (isWhole : IsWhole whole) :
    ∀ codePoint ∈ whole, isSpace codePoint = false := by
  cases isWhole with
  | zero => decide
  | digits isDigits _ => exact fun digit member => isSpace_of_isDecimal (isDigits.2 digit member)

theorem WritesFraction.noSpace {fraction written : Text}
    (writesFraction : WritesFraction fraction written) :
    ∀ codePoint ∈ written, isSpace codePoint = false := by
  cases writesFraction with
  | none => exact nofun
  | some isDigits =>
      rw [List.forall_mem_cons]
      exact ⟨by decide, fun digit member => isSpace_of_isDecimal (isDigits.2 digit member)⟩

theorem WritesPower.noSpace {power : Int} {written : Text}
    (writesPower : WritesPower power written) :
    ∀ codePoint ∈ written, isSpace codePoint = false := by
  cases writesPower with
  | none => exact nofun
  | some isMark isSign isDigits =>
      rw [List.forall_mem_cons, List.forall_mem_append]
      refine ⟨?_, ?_, fun digit member => isSpace_of_isDecimal (isDigits.2 digit member)⟩
      · cases isMark with
        | inl isSmall => rw [isSmall]; decide
        | inr isCapital => rw [isCapital]; decide
      · cases isSign with
        | none => exact nofun
        | plus => decide
        | minus => decide

theorem WritesNumber.noSpace {negative : Bool} {value : Json} {written : Text}
    (writesNumber : WritesNumber negative value written) :
    ∀ codePoint ∈ written, isSpace codePoint = false := by
  cases writesNumber with
  | integer isWhole _ => exact isWhole.noSpace
  | float isWhole writesFraction writesPower _ =>
      rw [List.forall_mem_append, List.forall_mem_append]
      exact ⟨⟨isWhole.noSpace, writesFraction.noSpace⟩, writesPower.noSpace⟩

theorem WritesScalar.noSpace {value : Json} {written : Text}
    (writesScalar : WritesScalar value written) :
    ∀ codePoint ∈ written, isSpace codePoint = false := by
  cases writesScalar with
  | word isWord =>
      have all : ∀ entry ∈ words, ∀ codePoint ∈ entry.1, isSpace codePoint = false := by decide
      exact all _ isWord
  | positive number => exact number.noSpace
  | negative number =>
      rw [List.forall_mem_cons]
      exact ⟨by decide, number.noSpace⟩

theorem not_mem_of_hexCodePoint? {first second third fourth codePoint : CodePoint}
    (named : hexCodePoint? first second third fourth = some codePoint) :
    CodePoint.char '\r' ∉ [first, second, third, fourth] := by
  intro member
  simp only [List.mem_cons, List.not_mem_nil, or_false] at member
  unfold hexCodePoint? at named
  rcases member with rfl | rfl | rfl | rfl <;>
    simp [show (CodePoint.char '\r').hexDigit? = none from rfl] at named

/-- A text has an escape where it has a line end. -/
theorem Spells.return_not_mem {value written : Text} (spells : Spells value written) :
    CodePoint.char '\r' ∉ written := by
  induction spells with
  | nil => exact List.not_mem_nil
  | plain noControl noQuote noEscape rest induction =>
      rw [List.mem_cons, not_or]
      refine ⟨?_, induction⟩
      intro same
      rw [← same] at noControl
      exact absurd noControl (by decide)
  | letter named rest induction =>
      simp only [List.mem_cons, not_or]
      refine ⟨by decide, ?_, induction⟩
      intro same
      rw [← same] at named
      cases named
  | number named whole rest induction =>
      have digits := not_mem_of_hexCodePoint? named
      simp only [List.mem_cons, not_or] at digits ⊢
      simp [digits, induction]
  | pair namesLeading isLeading namesTrailing isTrailing rest induction =>
      have digits := not_mem_of_hexCodePoint? namesLeading
      have otherDigits := not_mem_of_hexCodePoint? namesTrailing
      simp only [List.mem_cons, not_or] at digits otherDigits ⊢
      simp [digits, otherDigits, induction]

/-! ## Values between white space -/

/-- Whether something is written, without white space in front of it or behind it. -/
structure IsTight (written : Text) : Prop where
  starts : ∃ first rest, written = first :: rest ∧ isSpace first = false
  ends : ∃ before last, written = before ++ [last] ∧ isSpace last = false

theorem isTight_of_noSpace {written : Text} (nonempty : written ≠ [])
    (noSpace : ∀ codePoint ∈ written, isSpace codePoint = false) : IsTight written where
  starts := by
    obtain ⟨first, rest, rfl⟩ := List.exists_cons_of_ne_nil nonempty
    exact ⟨first, rest, rfl, noSpace first List.mem_cons_self⟩
  ends := by
    refine ⟨written.dropLast, written.getLast nonempty, ?_, noSpace _ (List.getLast_mem nonempty)⟩
    exact (List.dropLast_concat_getLast nonempty).symm

theorem isTight_enclosed {opening closing : CodePoint} (opens : isSpace opening = false)
    (closes : isSpace closing = false) (inner : Text) :
    IsTight (opening :: (inner ++ [closing])) where
  starts := ⟨opening, _, rfl, opens⟩
  ends := ⟨opening :: inner, closing, rfl, closes⟩

theorem WritesScalar.isTight {value : Json} {written : Text}
    (writesScalar : WritesScalar value written) : IsTight written := by
  have ends : EndsNumber [] := nofun
  obtain ⟨first, others, same, _⟩ := front_scalar writesScalar ends
  exact isTight_of_noSpace (same ▸ List.cons_ne_nil first others) writesScalar.noSpace

theorem Writes.isTight {value : Json} {written : Text} (writes : Writes (.value value) written) :
    IsTight written := by
  cases writes with
  | scalar writesScalar => exact writesScalar.isTight
  | text _ => exact isTight_enclosed rfl rfl _
  | emptyArray _ => exact isTight_enclosed rfl rfl _
  | array _ => exact isTight_enclosed rfl rfl _
  | object writesObject =>
      cases writesObject with
      | emptyObject _ => exact isTight_enclosed rfl rfl _
      | someObject _ => exact isTight_enclosed rfl rfl _

theorem ne_return_of_isSpace {codePoint : CodePoint} (noSpace : isSpace codePoint = false) :
    codePoint ≠ .char '\r' := by
  intro same
  rw [same] at noSpace
  cases noSpace

theorem head?_cons_ne_feed {first : CodePoint} (noSpace : isSpace first = false) (rest : Text) :
    (first :: rest).head? ≠ some (.char '\n') := by
  intro same
  rw [Option.some.inj same] at noSpace
  cases noSpace

theorem normalizeLines_append_cons {mark : CodePoint} (noSpace : isSpace mark = false)
    (before after : Text) : (before ++ mark :: after).normalizeLines
      = before.normalizeLines ++ mark :: after.normalizeLines := by
  rw [normalizeLines_append (head?_cons_ne_feed noSpace after),
    normalizeLines_cons (ne_return_of_isSpace noSpace)]

theorem normalizeLines_enclosed {opening closing : CodePoint} (opens : isSpace opening = false)
    (closes : isSpace closing = false) (inner : Text) :
    Text.normalizeLines (opening :: (inner ++ [closing]))
      = opening :: (inner.normalizeLines ++ [closing]) := by
  rw [normalizeLines_cons (ne_return_of_isSpace opens), normalizeLines_append_cons closes]
  rfl

theorem IsTight.normalizeLines_between {written : Text} (tight : IsTight written)
    (before after : Text) : (before ++ (written ++ after)).normalizeLines
      = before.normalizeLines ++ (written.normalizeLines ++ after.normalizeLines) := by
  obtain ⟨first, rest, starts, firstTight⟩ := tight.starts
  obtain ⟨front, last, ends, lastTight⟩ := tight.ends
  have behind : (written ++ after).normalizeLines
      = written.normalizeLines ++ after.normalizeLines := by
    rw [ends, List.append_assoc, List.singleton_append, normalizeLines_append_cons lastTight,
      normalizeLines_append_cons lastTight, List.append_assoc]
    rfl
  rw [normalizeLines_append, behind]
  rw [starts]
  exact head?_cons_ne_feed firstTight _

/-! ## Documents -/

theorem IsSpaces.normalizeLines {spaces : Text} (isSpaces : IsSpaces spaces) :
    IsSpaces spaces.normalizeLines := by
  intro codePoint member
  cases Text.mem_normalizeLines member with
  | inl isFeed => rw [isFeed]; rfl
  | inr isThere => exact isSpaces codePoint isThere

theorem WritesName.normalizeLines {name written : Text} (writesName : WritesName name written) :
    WritesName name written.normalizeLines := by
  cases writesName with
  | @mk before spelled after spacesBefore spells spacesAfter =>
      rw [normalizeLines_append_cons rfl, normalizeLines_append_of_not_mem spells.return_not_mem,
        normalizeLines_cons (by decide)]
      exact .mk spacesBefore.normalizeLines spells spacesAfter.normalizeLines

/-- What is written for a part of a document is so however its lines end. -/
theorem Writes.normalizeLines {phrase : Phrase} {written : Text} (writes : Writes phrase written) :
    Writes phrase written.normalizeLines := by
  induction writes with
  | scalar writesScalar =>
      rw [normalizeLines_of_not_mem fun member => nomatch writesScalar.noSpace _ member]
      exact .scalar writesScalar
  | text spells =>
      rw [normalizeLines_enclosed rfl rfl, normalizeLines_of_not_mem spells.return_not_mem]
      exact .text spells
  | emptyArray isSpaces =>
      rw [normalizeLines_enclosed rfl rfl]
      exact .emptyArray isSpaces.normalizeLines
  | array writesItems induction =>
      rw [normalizeLines_enclosed rfl rfl]
      exact .array induction
  | object writesObject induction => exact .object induction
  | emptyObject isSpaces =>
      rw [normalizeLines_enclosed rfl rfl]
      exact .emptyObject isSpaces.normalizeLines
  | someObject writesMembers induction =>
      rw [normalizeLines_enclosed rfl rfl]
      exact .someObject induction
  | element spacesBefore writesValue spacesAfter induction =>
      rw [writesValue.isTight.normalizeLines_between]
      exact .element spacesBefore.normalizeLines induction spacesAfter.normalizeLines
  | firstItem writesItem induction => exact .firstItem induction
  | nextItem writesOthers writesItem othersInduction itemInduction =>
      rw [normalizeLines_append_cons rfl]
      exact .nextItem othersInduction itemInduction
  | firstMember writesName writesValue induction =>
      rw [normalizeLines_append_cons rfl]
      exact .firstMember writesName.normalizeLines induction
  | nextMember writesOthers writesName writesValue othersInduction valueInduction =>
      rw [normalizeLines_append_cons rfl, normalizeLines_append_cons rfl]
      exact .nextMember othersInduction writesName.normalizeLines valueInduction

/-- A document that can be read has the same value however its lines end. -/
theorem read_normalizeLines {document : Text} {value : Json} (isRead : read document = .ok value) :
    read document.normalizeLines = .ok value :=
  read_eq_ok_iff.mpr (read_eq_ok_iff.mp isRead).normalizeLines

end ShareProvisioner.Json
