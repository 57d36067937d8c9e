import ShareProvisioner.Proofs.Outside.Store
import ShareProvisioner.Proofs.Parameters.Acceptance
import ShareProvisioner.Proofs.Text.Blank
import ShareProvisioner.Proofs.Text.Pieces

/-!
# Lists of monitors

Reading a list of monitors leaves monitors that could be joined and read again without a change.
The agent is told the monitors joined by commas, so that it can read back what the parameters
said, and a connection is determined by what the agent is told of it.
-/

namespace ShareProvisioner

namespace Parameters

/-- Whether a text can stand in a list of monitors as it is. -/
structure IsMonitor (text : Text) : Prop where
  filled : text ≠ []
  undivided : CodePoint.char ',' ∉ text
  stripped : text.IsStripped

variable {value : Text} {found : List Text}

/-- Between commas, monitors are read on their own. -/
theorem monitors_append (left right : Text) :
    monitors (left ++ .char ',' :: right) = monitors left ++ monitors right := by
  simp only [monitors, Text.pieces_append_separator, List.map_append, List.filter_append]

theorem isMonitor_of_mem {monitor : Text} (member : monitor ∈ monitors value) :
    IsMonitor monitor := by
  rw [monitors, List.mem_filter, List.mem_map] at member
  obtain ⟨⟨piece, isPiece, rfl⟩, filled⟩ := member
  have whole : CodePoint.char ',' ∉ piece := Text.not_mem_of_mem_pieces isPiece
  exact {
    filled := by simpa using filled
    undivided := fun divided => whole (Text.strip_subset piece divided)
    stripped := Text.isStripped_strip piece }

/-- What is no separator lies in some piece. -/
theorem exists_piece_iff {codePoint : CodePoint} :
    (∃ piece ∈ Text.pieces ',' value, codePoint ∈ piece)
      ↔ codePoint ∈ value ∧ codePoint ≠ .char ',' := by
  constructor
  · intro found
    obtain ⟨piece, isPiece, inPiece⟩ := found
    apply And.intro (Text.subset_of_mem_pieces _ isPiece inPiece)
    intro isComma
    exact Text.not_mem_of_mem_pieces isPiece (isComma ▸ inPiece)
  · intro found
    have joined := found.1
    rw [← @Text.join_pieces (.char ',') value] at joined
    cases Text.mem_join joined with
    | inl isSeparator => exact absurd (List.mem_singleton.mp isSeparator) found.2
    | inr inPiece => exact inPiece

/-- No monitor is found just in what consists of commas and white space. -/
theorem monitors_eq_nil_iff :
    monitors value = []
      ↔ ∀ codePoint ∈ value, codePoint = .char ',' ∨ codePoint.isBlank = true := by
  rw [← not_iff_not, ← ne_eq, ← listsMonitor_iff]
  constructor
  · intro lists separated
    obtain ⟨piece, isPiece, codePoint, inPiece, filled⟩ := lists
    have inside := exists_piece_iff.mp ⟨piece, isPiece, inPiece⟩
    cases separated codePoint inside.1 with
    | inl isComma => exact inside.2 isComma
    | inr blank => exact nomatch filled.symm.trans blank
  · intro more
    simp only [not_forall, not_or] at more
    obtain ⟨codePoint, inValue, noComma, filled⟩ := more
    obtain ⟨piece, isPiece, inPiece⟩ := exists_piece_iff.mpr ⟨inValue, noComma⟩
    exact ⟨piece, isPiece, codePoint, inPiece, Bool.eq_false_iff.mpr filled⟩

/-- Monitors that are joined by commas are read back. -/
theorem monitors_join (isMonitor : ∀ monitor ∈ found, IsMonitor monitor) :
    monitors (Text.join "," found) = found := by
  by_cases empty : found = []
  · rw [empty]
    rfl
  · have cut : Text.pieces ',' (Text.join "," found) = found :=
      Text.pieces_join empty fun monitor member => (isMonitor monitor member).undivided
    have stripped : found.map Text.strip = found := by
      apply (List.map_congr_left ?_).trans (List.map_id found)
      intro monitor member
      exact Text.strip_eq_self_iff.mpr (isMonitor monitor member).stripped
    rw [monitors, cut, stripped]
    apply List.filter_eq_self.mpr
    intro monitor member
    simpa using (isMonitor monitor member).filled

/-- The lists that reading comes to are all lists of monitors. -/
theorem exists_monitors_iff :
    (∃ value, monitors value = found) ↔ ∀ monitor ∈ found, IsMonitor monitor := by
  constructor
  · intro read
    obtain ⟨value, rfl⟩ := read
    exact fun monitor => isMonitor_of_mem
  · intro isMonitor
    exact ⟨_, monitors_join isMonitor⟩

theorem isMonitor_of_resolve {given : Mapping} {parameters : ClusterParameters}
    (accepted : resolve given = .ok parameters) :
    ∀ monitor ∈ parameters.monitors, IsMonitor monitor := by
  obtain ⟨all, found, _, _, listed, _, rfl⟩ := resolve_eq_ok_iff.mp accepted
  apply exists_monitors_iff.mp
  cases valued : valueOf all "monitors" with
  | text value =>
      rw [valued] at listed
      exact ⟨value, Except.ok.inj listed⟩
  | _ =>
      rw [valued] at listed
      cases listed

end Parameters

/-! ## What the agent is told -/

/-- Whether a connection is made from accepted parameters, with any key. -/
def Connection.IsAccepted (connection : Connection) : Prop :=
  ∃ given parameters adminKey, Parameters.resolve given = .ok parameters
    ∧ connection = parameters.connection adminKey

namespace Connection

variable {connection other : Connection}

theorem isAccepted_of_connect {given : Mapping} {parameters : ClusterParameters} {store : Store}
    {world : World} (accepted : Parameters.resolve given = .ok parameters)
    (connected : (Action.runIn world (store.connect parameters)).1 = .ok connection) :
    connection.IsAccepted := by
  obtain ⟨_, adminKey, _, _, same⟩ := Store.connect_eq_ok_iff.mp connected
  exact ⟨given, parameters, adminKey, accepted, same⟩

/-- The monitors can be read back from what the agent is told. -/
theorem IsAccepted.monitors_join (accepted : connection.IsAccepted) :
    Parameters.monitors (Text.join "," connection.monitors) = connection.monitors := by
  obtain ⟨given, parameters, adminKey, resolves, rfl⟩ := accepted
  exact Parameters.monitors_join (Parameters.isMonitor_of_resolve resolves)

theorem IsAccepted.eq_of_environment (accepted : connection.IsAccepted)
    (otherAccepted : other.IsAccepted) (same : connection.environment = other.environment) :
    connection = other := by
  simp only [environment, List.cons.injEq, Prod.mk.injEq, Json.text.injEq, true_and] at same
  obtain ⟨cluster, monitors, adminId, adminKey, _⟩ := same
  have monitorsSame : connection.monitors = other.monitors := by
    rw [← accepted.monitors_join, monitors, otherAccepted.monitors_join]
  cases connection
  cases other
  simp only [Connection.mk.injEq]
  exact ⟨cluster, adminId, adminKey, monitorsSame⟩

end Connection

/-- Lists of monitors are read part by part, into all lists of monitors that can stand between
commas, and such a list is what reading makes of its own rendering.  So the environment of the
agent determines the connection, provided that the parameters were accepted. -/
theorem Parameters.monitor_lists_canonical :
    (∀ left right, monitors (left ++ .char ',' :: right) = monitors left ++ monitors right)
      ∧ (∀ value, ∀ monitor ∈ monitors value, IsMonitor monitor)
      ∧ (∀ value, monitors value = []
          ↔ ∀ codePoint ∈ value, codePoint = .char ',' ∨ codePoint.isBlank = true)
      ∧ (∀ value, monitors (Text.join "," (monitors value)) = monitors value)
      ∧ (∀ found, (∃ value, monitors value = found) ↔ ∀ monitor ∈ found, IsMonitor monitor)
      ∧ (∀ given parameters, resolve given = .ok parameters → ∀ store world connection,
          (Action.runIn world (Store.connect store parameters)).1 = .ok connection →
            connection.IsAccepted)
      ∧ (∀ connection : Connection, connection.IsAccepted →
          ∃ listed, Entries.find? connection.environment "MONITORS" = some (.text listed)
            ∧ monitors listed = connection.monitors)
      ∧ (∀ connection other : Connection, connection.IsAccepted → other.IsAccepted →
          connection.environment = other.environment → connection = other) := by
  refine ⟨monitors_append, fun value monitor => isMonitor_of_mem, fun value => monitors_eq_nil_iff,
    ?_, fun found => exists_monitors_iff, ?_, ?_, ?_⟩
  · intro value
    exact monitors_join fun monitor => isMonitor_of_mem
  · intro given parameters accepted store world connection connected
    exact Connection.isAccepted_of_connect accepted connected
  · intro connection accepted
    exact ⟨_, rfl, accepted.monitors_join⟩
  · intro connection other accepted otherAccepted same
    exact accepted.eq_of_environment otherAccepted same

end ShareProvisioner
