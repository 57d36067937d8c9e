import Mathlib.Computability.RegularExpressions
import ShareProvisioner.Proofs.Text.Pieces
import ShareProvisioner.Service.Name
import ShareProvisioner.Text.Lines

/-!
# The grammar of object names

RFC 1123 gives labels and subdomains by a grammar, and the service has a regular expression
for each.  Checks, grammar and expressions agree on all texts.  The one thing that the
expressions let through, a line feed at the very end, is a matter of how they are matched.
-/

namespace ShareProvisioner.Service

def alphanumerics : Text := "abcdefghijklmnopqrstuvwxyz0123456789"

def labelCharacters : Text := "-" ++ alphanumerics

def nameCharacters : Text := "." ++ labelCharacters

/-- Whether a text is a label: it consists of letters, digits and hyphens, and begins and
ends with a letter or a digit. -/
structure IsLabelName (name : Text) : Prop where
  consists : name ⊆ labelCharacters
  begins : ∃ first ∈ alphanumerics, name.head? = some first
  ends : ∃ last ∈ alphanumerics, name.getLast? = some last

/-- Whether a text is one or more labels with single dots between them. -/
def IsSubdomainName (name : Text) : Prop :=
  ∃ labels : List Text, labels ≠ [] ∧ (∀ label ∈ labels, IsLabelName label)
    ∧ name = Text.join "." labels

/-- Whether a text is as wanted once a line feed at its very end is left out. -/
def UpToLineEnd (wanted : Text → Prop) (text : Text) : Prop :=
  ∃ body, wanted body ∧ (text = body ∨ text = body ++ "\n")

/-! ## Checks and grammar -/

theorem isAlphanumeric_iff (codePoint : CodePoint) :
    isAlphanumeric codePoint = true ↔ codePoint ∈ alphanumerics := by
  constructor
  · intro alphanumeric
    cases codePoint with
    | surrogate => exact nomatch alphanumeric
    | char letter =>
        have table : ∀ number ∈ List.range 0x80, isAlphanumeric (Char.ofNat number) = true →
            .char (Char.ofNat number) ∈ alphanumerics := by
          decide +kernel
        have bound : letter.toNat ∈ List.range 0x80 := by
          simp only [isAlphanumeric, CodePoint.isChar, Bool.or_eq_true, Bool.and_eq_true,
            decide_eq_true_eq, Char.le_def, UInt32.le_iff_toNat_le] at alphanumeric
          change 97 ≤ letter.toNat ∧ letter.toNat ≤ 122 ∨ 48 ≤ letter.toNat ∧ letter.toNat ≤ 57
            at alphanumeric
          rw [List.mem_range]
          omega
        have found := table letter.toNat bound
        rw [Char.ofNat_toNat] at found
        exact found alphanumeric
  · have table : ∀ codePoint ∈ alphanumerics, isAlphanumeric codePoint = true := by decide +kernel
    exact table codePoint

theorem isLabel_iff (name : Text) : isLabel name = true ↔ IsLabelName name := by
  have interior (codePoint : CodePoint) :
      isLabelInterior codePoint = true ↔ codePoint ∈ labelCharacters := by
    rw [isLabelInterior, Bool.or_eq_true, isAlphanumeric_iff, decide_eq_true_eq, or_comm]
    exact List.mem_cons.symm
  have limit (found : Option CodePoint) :
      found.any isAlphanumeric = true ↔ ∃ codePoint ∈ alphanumerics, found = some codePoint := by
    cases found <;> simp [isAlphanumeric_iff]
  rw [isLabel, Bool.and_eq_true, Bool.and_eq_true, List.all_eq_true, limit, limit]
  simp only [interior]
  exact ⟨fun checked => ⟨checked.1.1, checked.1.2, checked.2⟩,
    fun label => ⟨⟨label.consists, label.begins⟩, label.ends⟩⟩

theorem IsSubdomainName.consists {name : Text} (subdomain : IsSubdomainName name) :
    name ⊆ nameCharacters := by
  rcases subdomain with ⟨labels, -, areLabels, rfl⟩
  intro codePoint member
  rcases Text.mem_join member with dot | ⟨label, isPart, inLabel⟩
  · exact List.mem_append_left _ dot
  · exact List.mem_append_right _ ((areLabels label isPart).consists inLabel)

theorem IsLabelName.isSubdomainName {name : Text} (label : IsLabelName name) :
    IsSubdomainName name :=
  ⟨[name], List.cons_ne_nil _ _, List.forall_mem_singleton.mpr label,
    List.intercalate_singleton.symm⟩

theorem IsSubdomainName.ne_nil {name : Text} (subdomain : IsSubdomainName name) : name ≠ [] := by
  rcases subdomain with ⟨labels, nonempty, areLabels, rfl⟩
  rcases List.exists_cons_of_ne_nil nonempty with ⟨first, rest, rfl⟩
  rcases (areLabels first List.mem_cons_self).begins with ⟨head, -, begins⟩
  rw [Text.join_cons]
  apply List.append_ne_nil_of_left_ne_nil
  rintro rfl
  exact nomatch begins

theorem isSubdomain_iff (name : Text) : isSubdomain name = true ↔ IsSubdomainName name := by
  rw [isSubdomain, List.all_eq_true]
  constructor
  · intro areLabels
    refine ⟨Text.pieces '.' name, Text.pieces_ne_nil name, ?_, (Text.join_pieces name).symm⟩
    exact fun label member => (isLabel_iff label).mp (areLabels label member)
  · rintro ⟨labels, nonempty, areLabels, rfl⟩ label member
    have noDot : .char '.' ∉ labelCharacters := by decide
    have whole : ∀ part ∈ labels, .char '.' ∉ part := fun part isPart dot =>
      noDot ((areLabels part isPart).consists dot)
    have cut : Text.pieces '.' (Text.join "." labels) = labels := Text.pieces_join nonempty whole
    rw [cut] at member
    exact (isLabel_iff label).mpr (areLabels label member)

/-! ## Line ends -/

theorem withoutLineEnd_append (body : Text) : Text.withoutLineEnd (body ++ "\n") = body := by
  have last : (body ++ ("\n" : Text)).getLast? = some (.char '\n') := List.getLast?_concat
  rw [Text.withoutLineEnd, if_pos last]
  exact List.dropLast_concat

theorem withoutLineEnd_of_not_mem {body : Text} (absent : .char '\n' ∉ body) :
    Text.withoutLineEnd body = body :=
  if_neg fun last => absent (List.mem_of_getLast? last)

theorem eq_append_of_lineEnd {text : Text} (last : text.getLast? = some (.char '\n')) :
    text = text.dropLast ++ "\n" :=
  (List.dropLast_append_getLast? _ last).symm

/-- What is said of a text without its line end is said of it up to a line end, provided
that it is never said of a text that holds one. -/
theorem withoutLineEnd_iff {wanted : Text → Prop}
    (unbroken : ∀ body, wanted body → .char '\n' ∉ body) (text : Text) :
    wanted text.withoutLineEnd ↔ UpToLineEnd wanted text := by
  constructor
  · intro holds
    by_cases last : text.getLast? = some (.char '\n')
    · rw [Text.withoutLineEnd, if_pos last] at holds
      exact ⟨text.dropLast, holds, .inr (eq_append_of_lineEnd last)⟩
    · rw [Text.withoutLineEnd, if_neg last] at holds
      exact ⟨text, holds, .inl rfl⟩
  · rintro ⟨body, holds, rfl | rfl⟩
    · rwa [withoutLineEnd_of_not_mem (unbroken _ holds)]
    · rwa [withoutLineEnd_append]

theorem isLabel_withoutLineEnd_iff (name : Text) :
    isLabel name.withoutLineEnd = true ↔ UpToLineEnd IsLabelName name := by
  have noLineFeed : .char '\n' ∉ labelCharacters := by decide
  rw [isLabel_iff]
  exact withoutLineEnd_iff (fun body label lineFeed => noLineFeed (label.consists lineFeed)) name

theorem isSubdomain_withoutLineEnd_iff (name : Text) :
    isSubdomain name.withoutLineEnd = true ↔ UpToLineEnd IsSubdomainName name := by
  have noLineFeed : .char '\n' ∉ nameCharacters := by decide
  rw [isSubdomain_iff]
  exact withoutLineEnd_iff (fun body subdomain lineFeed =>
    noLineFeed (subdomain.consists lineFeed)) name

theorem UpToLineEnd.imp {wanted other : Text → Prop} {name : Text}
    (holds : UpToLineEnd wanted name) (implies : ∀ body, wanted body → other body) :
    UpToLineEnd other name := by
  rcases holds with ⟨body, isWanted, same⟩
  exact ⟨body, implies body isWanted, same⟩

theorem UpToLineEnd.consists {wanted : Text → Prop} {name characters : Text}
    (holds : UpToLineEnd wanted name) (consists : ∀ body, wanted body → body ⊆ characters) :
    name ⊆ "\n" ++ characters := by
  intro codePoint member
  rcases holds with ⟨body, isWanted, rfl | rfl⟩
  · exact List.mem_append_right _ (consists _ isWanted member)
  · rcases List.mem_append.mp member with inBody | lineFeed
    · exact List.mem_append_right _ (consists body isWanted inBody)
    · exact List.mem_append_left _ lineFeed

section Subdomains

variable {name : Text} (subdomain : UpToLineEnd IsSubdomainName name)
include subdomain

theorem UpToLineEnd.ne_nil : name ≠ [] := by
  rcases subdomain with ⟨body, isSubdomain, rfl | rfl⟩
  · exact isSubdomain.ne_nil
  · exact List.append_ne_nil_of_left_ne_nil isSubdomain.ne_nil _

theorem UpToLineEnd.isScalar : name.isScalar = true := by
  have scalars : ∀ codePoint ∈ ("\n" : Text) ++ nameCharacters, codePoint.isScalar = true := by
    decide
  have consists := subdomain.consists fun _ => IsSubdomainName.consists
  rw [Text.isScalar, List.all_eq_true]
  exact fun codePoint member => scalars codePoint (consists member)

end Subdomains

/-! ## Regular expressions -/

section Expressions

open RegularExpression

/-- Any one of the given code points. -/
def oneOf (codePoints : Text) : RegularExpression CodePoint :=
  (codePoints.map char).foldr (· + ·) 0

/-- `[a-z0-9]([-a-z0-9]*[a-z0-9])?` -/
def labelExpression : RegularExpression CodePoint :=
  oneOf alphanumerics * (1 + (oneOf labelCharacters).star * oneOf alphanumerics)

/-- The expression for a label, followed by any number of dots with another label each. -/
def subdomainExpression : RegularExpression CodePoint :=
  labelExpression * (char (CodePoint.char '.') * labelExpression).star

theorem mem_oneOf {codePoints text : Text} :
    text ∈ (oneOf codePoints).matches' ↔ ∃ codePoint ∈ codePoints, text = [codePoint] := by
  induction codePoints with
  | nil => simp [oneOf, Language.notMem_zero]
  | cons first rest induction =>
      have step : (oneOf (first :: rest)).matches' = {[first]} + (oneOf rest).matches' := rfl
      rw [step, Language.mem_add, induction, List.exists_mem_cons_iff]
      rfl

theorem mem_star_oneOf {codePoints text : Text} :
    text ∈ (oneOf codePoints).star.matches' ↔ ∀ codePoint ∈ text, codePoint ∈ codePoints := by
  rw [matches'_star, Language.mem_kstar]
  constructor
  · rintro ⟨parts, rfl, matching⟩ codePoint member
    rcases List.mem_flatten.mp member with ⟨part, isPart, inPart⟩
    rcases mem_oneOf.mp (matching part isPart) with ⟨only, allowed, rfl⟩
    exact List.mem_singleton.mp inPart ▸ allowed
  · intro allowed
    refine ⟨text.map fun codePoint => [codePoint], ?_, ?_⟩
    · exact (List.flatMap_singleton' text).symm
    · intro part isPart
      rcases List.mem_map.mp isPart with ⟨codePoint, member, rfl⟩
      exact mem_oneOf.mpr ⟨codePoint, allowed codePoint member, rfl⟩

theorem mem_labelExpression (name : Text) :
    name ∈ labelExpression.matches' ↔ IsLabelName name := by
  have allowed : alphanumerics ⊆ labelCharacters := List.subset_append_right _ _
  rw [labelExpression, matches'_mul, Language.mem_mul]
  constructor
  · rintro ⟨head, isHead, tail, isTail, rfl⟩
    rcases mem_oneOf.mp isHead with ⟨first, isFirst, rfl⟩
    rcases isTail with rfl | ⟨middle, isMiddle, final, isFinal, rfl⟩
    · refine ⟨?_, ⟨first, isFirst, rfl⟩, ⟨first, isFirst, rfl⟩⟩
      exact List.cons_subset.mpr ⟨allowed isFirst, List.nil_subset _⟩
    · rcases mem_oneOf.mp isFinal with ⟨last, isLast, rfl⟩
      have tailConsists : middle ++ [last] ⊆ labelCharacters :=
        List.append_subset.mpr ⟨mem_star_oneOf.mp isMiddle,
          List.cons_subset.mpr ⟨allowed isLast, List.nil_subset _⟩⟩
      exact ⟨List.cons_subset.mpr ⟨allowed isFirst, tailConsists⟩, ⟨first, isFirst, rfl⟩,
        ⟨last, isLast, List.getLast?_eq_some_iff.mpr ⟨first :: middle, rfl⟩⟩⟩
  · rintro ⟨consists, ⟨first, isFirst, begins⟩, ⟨last, isLast, ends⟩⟩
    rcases List.getLast?_eq_some_iff.mp ends with ⟨front, rfl⟩
    cases front with
    | nil => exact ⟨[last], mem_oneOf.mpr ⟨last, isLast, rfl⟩, [], .inl rfl, rfl⟩
    | cons head middle =>
        cases begins
        have isMiddle : middle ∈ (oneOf labelCharacters).star.matches' :=
          mem_star_oneOf.mpr fun codePoint member =>
            consists (List.mem_append_left _ (List.mem_cons_of_mem _ member))
        exact ⟨[first], mem_oneOf.mpr ⟨first, isFirst, rfl⟩, middle ++ [last],
          .inr ⟨middle, isMiddle, [last], mem_oneOf.mpr ⟨last, isLast, rfl⟩, rfl⟩, rfl⟩

theorem mem_subdomainExpression (name : Text) :
    name ∈ subdomainExpression.matches' ↔ IsSubdomainName name := by
  rw [subdomainExpression, matches'_mul, Language.mem_mul]
  constructor
  · rintro ⟨first, isFirst, tail, ⟨parts, rfl, matching⟩, rfl⟩
    have dotted : ∀ part ∈ parts, ∃ label, IsLabelName label ∧ ("." : Text) ++ label = part := by
      intro part isPart
      rcases matching part isPart with ⟨dot, rfl, label, isLabel, rfl⟩
      exact ⟨label, (mem_labelExpression label).mp isLabel, rfl⟩
    refine ⟨first :: parts.map List.tail, List.cons_ne_nil _ _, ?_, ?_⟩
    · rw [List.forall_mem_cons]
      refine ⟨(mem_labelExpression first).mp isFirst, ?_⟩
      intro label member
      rcases List.mem_map.mp member with ⟨part, isPart, rfl⟩
      rcases dotted part isPart with ⟨label, isLabel, rfl⟩
      exact isLabel
    · have restored : (parts.map List.tail).map (("." : Text) ++ ·) = parts := by
        rw [List.map_map]
        refine (List.map_congr_left fun part isPart => ?_).trans (List.map_id parts)
        rcases dotted part isPart with ⟨label, -, rfl⟩
        rfl
      rw [Text.join_cons, restored]
  · rintro ⟨labels, nonempty, areLabels, rfl⟩
    rcases List.exists_cons_of_ne_nil nonempty with ⟨first, rest, rfl⟩
    rw [List.forall_mem_cons] at areLabels
    refine ⟨first, (mem_labelExpression first).mpr areLabels.1, _, ⟨_, rfl, ?_⟩,
      (Text.join_cons ..).symm⟩
    intro part isPart
    rcases List.mem_map.mp isPart with ⟨label, member, rfl⟩
    exact ⟨".", rfl, label, (mem_labelExpression label).mpr (areLabels.2 label member), rfl⟩

/-- The checks of the service are what its expressions match up to a line end. -/
theorem withoutLineEnd_iff_matches (name : Text) :
    (isLabel name.withoutLineEnd = true ↔ UpToLineEnd (· ∈ labelExpression.matches') name)
      ∧ (isSubdomain name.withoutLineEnd = true
        ↔ UpToLineEnd (· ∈ subdomainExpression.matches') name) := by
  constructor
  · simp only [isLabel_withoutLineEnd_iff, UpToLineEnd, mem_labelExpression]
  · simp only [isSubdomain_withoutLineEnd_iff, UpToLineEnd, mem_subdomainExpression]

end Expressions

end ShareProvisioner.Service
