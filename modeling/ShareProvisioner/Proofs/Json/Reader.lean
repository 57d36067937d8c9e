import ShareProvisioner.Json.Reader
import ShareProvisioner.Proofs.Json.Token

/-!
# What can be read

A document is read as a value if and only if it denotes that value.  The reader comes through
whatever the grammar derives, since each part of a document brings it from the place where that
part is expected to the place behind; and wherever it comes, what lies behind it are the parts
that brought it there.
-/

namespace ShareProvisioner.Json

/-! ## Reading tokens -/

/-- The value that a state comes to with the tokens that are left. -/
def accept (state : State) : List Token → Option Json
  | [] => state.finish.toOption
  | token :: rest => (state.step token).toOption.bind fun next => accept next rest

theorem accept_cons {state next : State} {token : Token} (steps : state.step token = .ok next)
    (rest : List Token) : accept state (token :: rest) = accept next rest := by
  rw [accept, steps]
  rfl

theorem advance_eq_ok_iff {document : Text} {state next : State} {placed : Placed} :
    State.advance document state placed = .ok next ↔ state.step placed.token = .ok next := by
  unfold State.advance
  cases state.step placed.token with
  | ok other => simp
  | error refusal => cases refusal <;> simp

/-- Only whether a document is at fault is asked here, not where. -/
theorem readUnmarked_eq_ok_iff {document : Text} {value : Json} :
    readUnmarked document = .ok value ↔ accept (.expectValue []) (lex document) = some value := by
  have fromState (state : State) (placed : List Placed) :
      (∃ last, placed.foldlM (State.advance document) state = .ok last ∧ last.finish = .ok value)
        ↔ accept state (placed.map Placed.token) = some value := by
    induction placed generalizing state with
    | nil =>
        rw [List.foldlM_nil, List.map_nil, accept]
        cases finished : state.finish with
        | ok result =>
            constructor
            · rintro ⟨last, ⟨⟩, same⟩
              cases finished.symm.trans same
              rfl
            · rintro ⟨⟩
              exact ⟨state, rfl, finished⟩
        | error problem =>
            refine iff_of_false ?_ nofun
            rintro ⟨last, ⟨⟩, same⟩
            cases finished.symm.trans same
    | cons first rest induction =>
        rw [List.foldlM_cons, List.map_cons]
        simp only [Result.bind_eq_ok_iff, advance_eq_ok_iff]
        cases stepped : state.step first.token with
        | ok next =>
            rw [accept_cons stepped, ← induction]
            simp
        | error refusal =>
            rw [accept, stepped]
            refine iff_of_false ?_ nofun
            rintro ⟨last, ⟨next, ⟨⟩, _⟩, _⟩
  rw [lex, tokens, ← fromState]
  unfold readUnmarked
  rw [Result.bind_eq_ok_iff]
  refine exists_congr fun last => and_congr_right fun _ => ?_
  cases last.finish with
  | ok result => simp [pure, Except.pure]
  | error problem => simp [throw, throwThe, MonadExceptOf.throw]

/-! ## What the grammar derives is read -/

/-- Whether a state takes whatever begins a value, inside of what is open. -/
def ExpectsValue (state : State) (outer : List Frame) : Prop :=
  ∀ token next, State.begin outer token = .ok next → state.step token = .ok next

theorem expectsValue_expectValue (outer : List Frame) :
    ExpectsValue (.expectValue outer) outer :=
  fun _ _ begins => begins

theorem step_expectFirstItem {outer : List Frame} {token : Token} (noEnd : token ≠ .closeArray) :
    State.step (.expectFirstItem outer) token = State.begin (.array [] :: outer) token := by
  cases token with
  | closeArray => exact absurd rfl noEnd
  | _ => rfl

theorem expectsValue_expectFirstItem (outer : List Frame) :
    ExpectsValue (.expectFirstItem outer) (.array [] :: outer) := by
  intro token next begins
  rw [step_expectFirstItem (by rintro rfl; cases begins), begins]

/-- Where the reader comes to with a part of a document. -/
def Advances : Phrase → Text → Prop
  | .value value, written | .element value, written => ∀ state outer, ExpectsValue state outer →
      ∀ rest, EndsNumber rest →
        accept state (lex (written ++ rest)) = accept (State.supply value outer) (lex rest)
  | .object members, written => ∀ state outer, ExpectsValue state outer →
      ∀ rest, EndsNumber rest → accept state (lex (written ++ rest))
        = accept (State.supply (.object (Entries.ofList members)) outer) (lex rest)
  | .items items, written => ∀ outer rest, EndsNumber rest →
      accept (.expectFirstItem outer) (lex (written ++ rest))
        = accept (.afterItem items.reverse outer) (lex rest)
  | .members members, written => ∀ outer rest, EndsNumber rest →
      accept (.expectFirstName outer) (lex (written ++ rest))
        = accept (.afterMember members.reverse outer) (lex rest)

theorem lex_mark {mark : CodePoint} {token : Token} (writesToken : WritesToken token [mark])
    (noScalar : ∀ value, token ≠ .scalar value) (rest : Text) :
    lex (mark :: rest) = token :: lex rest :=
  lex_token writesToken fun value isScalar => absurd isScalar (noScalar value)

theorem lex_name {name written : Text} (writesName : WritesName name written) (rest : Text) :
    lex (written ++ rest) = .text name :: lex rest := by
  cases writesName with
  | @mk before spelled after spacesBefore spells spacesAfter =>
      have begins : before ++ .char '"' :: (spelled ++ .char '"' :: after) ++ rest
          = before ++ ((.char '"' :: (spelled ++ [.char '"'])) ++ (after ++ rest)) := by simp
      rw [begins, lex_spaces spacesBefore, lex_token (.text spells) nofun, lex_spaces spacesAfter]

theorem endsNumber_cons {first : CodePoint} (ends : continuesNumber first = false) (rest : Text) :
    EndsNumber (first :: rest) := by
  rintro _ ⟨⟩
  exact ends

theorem EndsNumber.spaces {spaces rest : Text} (ends : EndsNumber rest)
    (isSpaces : IsSpaces spaces) : EndsNumber (spaces ++ rest) := by
  cases spaces with
  | nil => exact ends
  | cons first others =>
      have space := isSpaces first List.mem_cons_self
      simp only [isSpace, Bool.or_eq_true, decide_eq_true_eq] at space
      refine endsNumber_cons ?_ _
      rcases space with ((rfl | rfl) | rfl) | rfl <;> rfl

/-- The reader comes through whatever the grammar derives. -/
theorem advances_of_writes {phrase : Phrase} {written : Text} (writes : Writes phrase written) :
    Advances phrase written := by
  induction writes with
  | scalar writesScalar =>
      intro state outer expects rest ends
      rw [lex_token (.scalar writesScalar) fun _ _ => ends, accept_cons (expects _ _ rfl)]
  | text spells =>
      intro state outer expects rest _
      rw [lex_token (.text spells) nofun, accept_cons (expects _ _ rfl)]
  | @emptyArray spaces isSpaces =>
      intro state outer expects rest _
      rw [List.cons_append, List.append_assoc, lex_mark .openArray nofun, lex_spaces isSpaces,
        List.singleton_append, lex_mark .closeArray nofun, accept_cons (expects _ _ rfl),
        accept_cons rfl]
  | @array items written _ induction =>
      intro state outer expects rest _
      rw [List.cons_append, List.append_assoc, lex_mark .openArray nofun,
        accept_cons (expects _ _ rfl), List.singleton_append,
        induction outer (.char ']' :: rest) (endsNumber_cons rfl rest),
        lex_mark .closeArray nofun, accept_cons rfl, List.reverse_reverse]
  | object _ induction => exact induction
  | @emptyObject spaces isSpaces =>
      intro state outer expects rest _
      rw [List.cons_append, List.append_assoc, lex_mark .openObject nofun, lex_spaces isSpaces,
        List.singleton_append, lex_mark .closeObject nofun, accept_cons (expects _ _ rfl),
        accept_cons rfl]
      rfl
  | @someObject members written _ induction =>
      intro state outer expects rest _
      rw [List.cons_append, List.append_assoc, lex_mark .openObject nofun,
        accept_cons (expects _ _ rfl), List.singleton_append,
        induction outer (.char '\x7d' :: rest) (endsNumber_cons rfl rest),
        lex_mark .closeObject nofun, accept_cons rfl, ofMembers, List.reverse_reverse]
  | @element value before written after spacesBefore _ spacesAfter induction =>
      intro state outer expects rest ends
      rw [List.append_assoc, List.append_assoc, lex_spaces spacesBefore,
        induction state outer expects _ (ends.spaces spacesAfter), lex_spaces spacesAfter]
  | @firstItem item written _ induction =>
      intro outer rest ends
      exact induction _ _ (expectsValue_expectFirstItem outer) rest ends
  | @nextItem items item others written _ _ inductionOthers induction =>
      intro outer rest ends
      rw [List.append_assoc, List.cons_append,
        inductionOthers outer _ (endsNumber_cons rfl _), lex_mark .comma nofun,
        accept_cons rfl, induction _ _ (expectsValue_expectValue _) rest ends, List.reverse_concat]
      rfl
  | @firstMember name value writtenName written writesName _ induction =>
      intro outer rest ends
      rw [List.append_assoc, lex_name writesName, List.cons_append, accept_cons rfl,
        lex_mark .colon nofun, accept_cons rfl,
        induction _ _ (expectsValue_expectValue _) rest ends]
      rfl
  | @nextMember members name value others writtenName written _ writesName _ inductionOthers
      induction =>
      intro outer rest ends
      rw [List.append_assoc, List.cons_append,
        inductionOthers outer _ (endsNumber_cons rfl _), lex_mark .comma nofun,
        accept_cons rfl, List.append_assoc, lex_name writesName, List.cons_append,
        accept_cons rfl, lex_mark .colon nofun, accept_cons rfl,
        induction _ _ (expectsValue_expectValue _) rest ends, List.reverse_concat]
      rfl

/-! ## What is read is derived -/

/-- What stands between the start of an object and the colon behind a name; the members before
that name are given last first. -/
inductive WritesNames : List (Text × Json) → Text → Text → Prop
  | first {name written : Text} (writesName : WritesName name written) :
      WritesNames [] name written
  | next {members : List (Text × Json)} {name others written : Text}
      (writesOthers : Writes (.members members.reverse) others)
      (writesName : WritesName name written) :
      WritesNames members name (others ++ .char ',' :: written)

/-- What stands in front of a value inside of what is open. -/
inductive Opens : List Frame → Text → Prop
  | document {spaces : Text} (isSpaces : IsSpaces spaces) : Opens [] spaces
  | firstItem {outer : List Frame} {before spaces : Text} (opens : Opens outer before)
      (isSpaces : IsSpaces spaces) : Opens (.array [] :: outer) (before ++ .char '[' :: spaces)
  | nextItem {items : List Json} {outer : List Frame} {before written spaces : Text}
      (opens : Opens outer before) (writesItems : Writes (.items items.reverse) written)
      (isSpaces : IsSpaces spaces) :
      Opens (.array items :: outer) (before ++ .char '[' :: (written ++ .char ',' :: spaces))
  | member {members : List (Text × Json)} {name : Text} {outer : List Frame}
      {before written spaces : Text} (opens : Opens outer before)
      (writesNames : WritesNames members name written) (isSpaces : IsSpaces spaces) :
      Opens (.object members name :: outer)
        (before ++ .char '\x7b' :: (written ++ .char ':' :: spaces))

/-- What has been read when the reader is in a state. -/
inductive Reaches : State → Text → Prop
  | expectValue {outer : List Frame} {before : Text} (opens : Opens outer before) :
      Reaches (.expectValue outer) before
  | expectFirstItem {outer : List Frame} {before spaces : Text} (opens : Opens outer before)
      (isSpaces : IsSpaces spaces) :
      Reaches (.expectFirstItem outer) (before ++ .char '[' :: spaces)
  | afterItem {items : List Json} {outer : List Frame} {before written : Text}
      (opens : Opens outer before) (writesItems : Writes (.items items.reverse) written) :
      Reaches (.afterItem items outer) (before ++ .char '[' :: written)
  | expectFirstName {outer : List Frame} {before spaces : Text} (opens : Opens outer before)
      (isSpaces : IsSpaces spaces) :
      Reaches (.expectFirstName outer) (before ++ .char '\x7b' :: spaces)
  | expectName {members : List (Text × Json)} {outer : List Frame} {before written spaces : Text}
      (opens : Opens outer before) (writesMembers : Writes (.members members.reverse) written)
      (isSpaces : IsSpaces spaces) :
      Reaches (.expectName members outer)
        (before ++ .char '\x7b' :: (written ++ .char ',' :: spaces))
  | expectColon {members : List (Text × Json)} {name : Text} {outer : List Frame}
      {before written : Text} (opens : Opens outer before)
      (writesNames : WritesNames members name written) :
      Reaches (.expectColon members name outer) (before ++ .char '\x7b' :: written)
  | afterMember {members : List (Text × Json)} {outer : List Frame} {before written : Text}
      (opens : Opens outer before) (writesMembers : Writes (.members members.reverse) written) :
      Reaches (.afterMember members outer) (before ++ .char '\x7b' :: written)
  | complete {value : Json} {written : Text} (denotes : Denotes written value) :
      Reaches (.complete value) written

section Spaces

variable {gap : CodePoint} (isGap : isSpace gap = true)
include isGap

theorem IsSpaces.space {spaces : Text} (isSpaces : IsSpaces spaces) :
    IsSpaces (spaces ++ [gap]) := by
  intro codePoint member
  rcases List.mem_append.mp member with inSpaces | isLast
  · exact isSpaces codePoint inSpaces
  · rw [List.mem_singleton.mp isLast]
    exact isGap

theorem WritesName.space {name written : Text} (writesName : WritesName name written) :
    WritesName name (written ++ [gap]) := by
  cases writesName with
  | @mk before spelled after spacesBefore spells spacesAfter =>
      have moved : before ++ .char '"' :: (spelled ++ .char '"' :: after) ++ [gap]
          = before ++ .char '"' :: (spelled ++ .char '"' :: (after ++ [gap])) := by simp
      rw [moved]
      exact .mk spacesBefore spells (spacesAfter.space isGap)

theorem Writes.element_space {value : Json} {written : Text}
    (writes : Writes (.element value) written) : Writes (.element value) (written ++ [gap]) := by
  cases writes with
  | element spacesBefore writesValue spacesAfter =>
      rw [List.append_assoc, List.append_assoc]
      exact .element spacesBefore writesValue (spacesAfter.space isGap)

theorem Writes.items_space {items : List Json} {written : Text}
    (writes : Writes (.items items) written) : Writes (.items items) (written ++ [gap]) := by
  cases writes with
  | firstItem writesItem => exact .firstItem (writesItem.element_space isGap)
  | nextItem writesOthers writesItem =>
      rw [List.append_assoc, List.cons_append]
      exact .nextItem writesOthers (writesItem.element_space isGap)

theorem Writes.members_space {members : List (Text × Json)} {written : Text}
    (writes : Writes (.members members) written) :
    Writes (.members members) (written ++ [gap]) := by
  cases writes with
  | firstMember writesName writesValue =>
      rw [List.append_assoc, List.cons_append]
      exact .firstMember writesName (writesValue.element_space isGap)
  | nextMember writesOthers writesName writesValue =>
      rw [List.append_assoc, List.cons_append, List.append_assoc, List.cons_append]
      exact .nextMember writesOthers writesName (writesValue.element_space isGap)

theorem WritesNames.space {members : List (Text × Json)} {name written : Text}
    (writesNames : WritesNames members name written) :
    WritesNames members name (written ++ [gap]) := by
  cases writesNames with
  | first writesName => exact .first (writesName.space isGap)
  | next writesOthers writesName =>
      rw [List.append_assoc, List.cons_append]
      exact .next writesOthers (writesName.space isGap)

theorem Opens.space {outer : List Frame} {before : Text} (opens : Opens outer before) :
    Opens outer (before ++ [gap]) := by
  cases opens with
  | document isSpaces => exact .document (isSpaces.space isGap)
  | firstItem opens isSpaces =>
      rw [List.append_assoc, List.cons_append]
      exact .firstItem opens (isSpaces.space isGap)
  | nextItem opens writesItems isSpaces =>
      rw [List.append_assoc, List.cons_append, List.append_assoc, List.cons_append]
      exact .nextItem opens writesItems (isSpaces.space isGap)
  | member opens writesNames isSpaces =>
      rw [List.append_assoc, List.cons_append, List.append_assoc, List.cons_append]
      exact .member opens writesNames (isSpaces.space isGap)

/-- White space is read wherever the reader is. -/
theorem Reaches.space {state : State} {before : Text} (reaches : Reaches state before) :
    Reaches state (before ++ [gap]) := by
  cases reaches with
  | expectValue opens => exact .expectValue (opens.space isGap)
  | expectFirstItem opens isSpaces =>
      rw [List.append_assoc, List.cons_append]
      exact .expectFirstItem opens (isSpaces.space isGap)
  | afterItem opens writesItems =>
      rw [List.append_assoc, List.cons_append]
      exact .afterItem opens (writesItems.items_space isGap)
  | expectFirstName opens isSpaces =>
      rw [List.append_assoc, List.cons_append]
      exact .expectFirstName opens (isSpaces.space isGap)
  | expectName opens writesMembers isSpaces =>
      rw [List.append_assoc, List.cons_append, List.append_assoc, List.cons_append]
      exact .expectName opens writesMembers (isSpaces.space isGap)
  | expectColon opens writesNames =>
      rw [List.append_assoc, List.cons_append]
      exact .expectColon opens (writesNames.space isGap)
  | afterMember opens writesMembers =>
      rw [List.append_assoc, List.cons_append]
      exact .afterMember opens (writesMembers.members_space isGap)
  | complete denotes => exact .complete (Writes.element_space isGap denotes)

end Spaces

section Steps

variable {outer : List Frame} {before written : Text} {token : Token} {next : State}

theorem isSpaces_nil : IsSpaces [] := nofun

theorem Opens.supply {value : Json} (opens : Opens outer before)
    (writes : Writes (.value value) written) :
    Reaches (State.supply value outer) (before ++ written) := by
  have element {spaces : Text} (isSpaces : IsSpaces spaces) :
      Writes (.element value) (spaces ++ written) := by
    have whole := Writes.element isSpaces writes isSpaces_nil
    rwa [List.append_nil] at whole
  cases opens with
  | document isSpaces => exact .complete (element isSpaces)
  | firstItem opens isSpaces =>
      rw [List.append_assoc, List.cons_append]
      exact .afterItem opens (.firstItem (element isSpaces))
  | nextItem opens writesItems isSpaces =>
      rw [List.append_assoc, List.cons_append, List.append_assoc, List.cons_append]
      refine .afterItem opens ?_
      rw [List.reverse_cons]
      exact .nextItem writesItems (element isSpaces)
  | member opens writesNames isSpaces =>
      rw [List.append_assoc, List.cons_append, List.append_assoc, List.cons_append]
      refine .afterMember opens ?_
      rw [List.reverse_cons]
      cases writesNames with
      | first writesName => exact .firstMember writesName (element isSpaces)
      | next writesOthers writesName =>
          rw [List.append_assoc, List.cons_append]
          exact .nextMember writesOthers writesName (element isSpaces)

theorem Opens.begin (opens : Opens outer before) (writesToken : WritesToken token written)
    (begins : State.begin outer token = .ok next) : Reaches next (before ++ written) := by
  cases writesToken with
  | openObject => cases begins; exact .expectFirstName opens isSpaces_nil
  | openArray => cases begins; exact .expectFirstItem opens isSpaces_nil
  | text spells => cases begins; exact opens.supply (.text spells)
  | scalar writesScalar => cases begins; exact opens.supply (.scalar writesScalar)
  | closeObject | closeArray | colon | comma => cases begins

theorem Reaches.step {state : State} (reaches : Reaches state before)
    (writesToken : WritesToken token written) (steps : state.step token = .ok next) :
    Reaches next (before ++ written) := by
  cases reaches with
  | expectValue opens => exact opens.begin writesToken steps
  | expectFirstItem opens isSpaces =>
      by_cases isEnd : token = .closeArray
      · cases isEnd
        cases steps
        cases writesToken
        rw [List.append_assoc, List.cons_append]
        exact opens.supply (.emptyArray isSpaces)
      · rw [step_expectFirstItem isEnd] at steps
        exact (Opens.firstItem opens isSpaces).begin writesToken steps
  | afterItem opens writesItems =>
      rw [List.append_assoc, List.cons_append]
      cases writesToken with
      | comma => cases steps; exact .expectValue (.nextItem opens writesItems isSpaces_nil)
      | closeArray => cases steps; exact opens.supply (.array writesItems)
      | _ => cases steps
  | expectFirstName opens isSpaces =>
      rw [List.append_assoc, List.cons_append]
      cases writesToken with
      | closeObject => cases steps; exact opens.supply (.object (.emptyObject isSpaces))
      | text spells =>
          cases steps
          exact .expectColon opens (.first (.mk isSpaces spells isSpaces_nil))
      | _ => cases steps
  | expectName opens writesMembers isSpaces =>
      rw [List.append_assoc, List.cons_append, List.append_assoc, List.cons_append]
      cases writesToken with
      | text spells =>
          cases steps
          exact .expectColon opens (.next writesMembers (.mk isSpaces spells isSpaces_nil))
      | _ => cases steps
  | expectColon opens writesNames =>
      rw [List.append_assoc, List.cons_append]
      cases writesToken with
      | colon => cases steps; exact .expectValue (.member opens writesNames isSpaces_nil)
      | _ => cases steps
  | afterMember opens writesMembers =>
      rw [List.append_assoc, List.cons_append]
      cases writesToken with
      | comma => cases steps; exact .expectName opens writesMembers isSpaces_nil
      | closeObject => cases steps; exact opens.supply (.object (.someObject writesMembers))
      | _ => cases steps
  | complete _ => cases steps

/-- A broken token brings the reader nowhere. -/
theorem step_of_isBroken (isBroken : token.IsBroken) (state : State) :
    state.step token ≠ .ok next := by
  cases isBroken <;> cases state <;> exact nofun

end Steps

/-- Where the reader comes to the end of a document, the document denotes what it has read. -/
theorem denotes_of_accept {state : State} {before rest : Text} {value : Json}
    (reaches : Reaches state before) (accepts : accept state (lex rest) = some value) :
    Denotes (before ++ rest) value := by
  induction length : rest.length using Nat.strong_induction_on generalizing state before rest with
  | _ length induction =>
      subst length
      cases rest with
      | nil =>
          rw [lex_nil, accept] at accepts
          cases reaches with
          | complete denotes =>
              cases accepts
              rwa [List.append_nil]
          | _ => cases accepts
      | cons first rest =>
          by_cases space : isSpace first = true
          · rw [lex_space space] at accepts
            have further := induction _ (Nat.lt_succ_self _) (reaches.space space) accepts rfl
            rwa [List.append_assoc, List.singleton_append] at further
          · rw [lex_front space, accept] at accepts
            cases stepped : state.step (front first rest).1 with
            | error refusal =>
                rw [stepped] at accepts
                cases accepts
            | ok next =>
                rw [stepped] at accepts
                rcases writesToken_of_front first rest with isBroken | ⟨written, begins, writesToken⟩
                · exact absurd stepped (step_of_isBroken isBroken state)
                · have shorter : (rest.drop (front first rest).2).length < (first :: rest).length := by
                    rw [List.length_drop, List.length_cons]
                    omega
                  have further := induction _ shorter (reaches.step writesToken stepped) accepts rfl
                  rwa [List.append_assoc, ← begins] at further

/-! ## Documents -/

/-- A document is read as the value that it denotes. -/
theorem read_eq_ok_iff {document : Text} {value : Json} :
    read document = .ok value ↔ Denotes document value := by
  have accepts_iff : accept (.expectValue []) (lex document) = some value
      ↔ Denotes document value := by
    constructor
    · exact denotes_of_accept (.expectValue (.document isSpaces_nil))
    · intro denotes
      have advances := advances_of_writes denotes _ _ (expectsValue_expectValue []) [] nofun
      rwa [List.append_nil] at advances
  unfold read
  split
  · next marked =>
      refine iff_of_false nofun fun denotes => ?_
      have accepts := accepts_iff.mpr denotes
      cases document with
      | nil => cases marked
      | cons first rest =>
          cases marked
          cases accepts
  · rw [readUnmarked_eq_ok_iff, accepts_iff]

theorem not_writesScalar_object {members : List (Text × Json)} {written : Text} :
    ¬WritesScalar (.object members) written := by
  intro writesScalar
  cases writesScalar with
  | word isWord => simp [words] at isWord
  | positive number => cases number
  | negative number => cases number

/-- A document is read as an object if and only if members are written in it; of those with one
name the object has the last. -/
theorem read_eq_object_iff {document : Text} {members : List (Text × Json)} :
    read document = .ok (.object members)
      ↔ ∃ written, ListsMembers document written ∧ members = Entries.ofList written := by
  rw [read_eq_ok_iff]
  constructor
  · intro denotes
    cases denotes with | element spacesBefore writesValue spacesAfter
    cases writesValue with
    | scalar writesScalar => exact absurd writesScalar not_writesScalar_object
    | object writesObject =>
        exact ⟨_, ⟨_, _, _, spacesBefore, writesObject, spacesAfter, rfl⟩, rfl⟩
  · rintro ⟨written, ⟨before, object, after, spacesBefore, writesObject, spacesAfter, rfl⟩, rfl⟩
    exact .element spacesBefore (.object writesObject) spacesAfter

end ShareProvisioner.Json
