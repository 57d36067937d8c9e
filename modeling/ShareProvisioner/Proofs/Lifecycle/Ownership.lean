import ShareProvisioner.Proofs.Lifecycle.Creation
import ShareProvisioner.Proofs.Provisioner.Published

/-!
# Ownership over a lifecycle

The stamp on a volume names the provisioner that created the share behind it.  It
survives in the published object: whoever edits that object may remove the stamp, but as
long as nobody forges one, a provisioner destroys no shares but its own.
-/

namespace ShareProvisioner

namespace Edit

variable {edit : Edit} {volume : Volume}

/-- Whether an edit does not write to an annotation, though it may drop it. -/
def Spares (edit : Edit) (key : AnnotationKey) : Prop :=
  ∀ entry ∈ edit.set, entry.1 ≠ key.name

instance (edit : Edit) (key : AnnotationKey) : Decidable (edit.Spares key) :=
  inferInstanceAs (Decidable (∀ entry ∈ edit.set, _))

/-- Whether an edit forges no stamp. -/
structure IsHonest (edit : Edit) : Prop where
  identity : edit.Spares .identity
  share : edit.Spares .share

theorem annotationAt_apply {key : AnnotationKey} (spares : edit.Spares key) (volume : Volume) :
    (edit.apply volume).annotationAt key = .null
      ∨ (edit.apply volume).annotationAt key = volume.annotationAt key := by
  have kept : (Entries.insertAll volume.annotations (Mapping.ofMembers edit.set)).find?
      (.text key.name) = volume.annotations.find? (.text key.name) := by
    refine Entries.find?_insertAll_of_absent (fun pair member => ?_) _
    rcases List.mem_map.mp member with ⟨entry, inSet, rfl⟩
    simpa using spares entry inSet
  have dropped := Entries.find?_foldl_erase (edit.drop.map Key.text) (.text key.name)
    (Entries.insertAll volume.annotations (Mapping.ofMembers edit.set))
  rw [List.foldl_map, kept] at dropped
  unfold Volume.annotationAt apply
  rcases dropped with nothing | same
  · exact .inl (by rw [nothing]; rfl)
  · exact .inr (by rw [same])

theorem apply_isRenderable (renderable : volume.IsRenderable) :
    (edit.apply volume).IsRenderable where
  capacity := renderable.capacity
  annotations := (renderable.annotations.insertAll edit.set).foldl_erase edit.drop

/-- A stamp that is still there after an edit is the volume's own. -/
theorem stamp_of_apply (honest : edit.IsHonest) {identity share identityLeft shareLeft : Text}
    (stamped : volume.IsStamped identity share)
    (left : (edit.apply volume).IsStamped identityLeft shareLeft) :
    identityLeft = identity ∧ shareLeft = share := by
  constructor
  · rcases annotationAt_apply honest.identity volume with gone | kept
    · exact nomatch left.identity.symm.trans gone
    · exact Json.text.inj (left.identity.symm.trans (kept.trans stamped.identity))
  · rcases annotationAt_apply honest.share volume with gone | kept
    · exact nomatch left.share.symm.trans gone
    · exact Json.text.inj (left.share.symm.trans (kept.trans stamped.share))

end Edit

namespace Run

/-- Whether a step hands over for deletion, if anything, a volume that was made before,
with no stamp forged. -/
def HandsOver (run : Run) : Step → Prop
  | .delete _ manifest => ∃ made volume edit, run.volumes.lookup made = some volume
      ∧ edit.IsHonest ∧ manifest = (Edit.apply edit volume).manifestMembers
  | .deleteMade _ _ edit => edit.IsHonest
  | _ => True

def AllHandOver (run : Run) (steps : List Step) : Prop :=
  ∀ number step, steps[number]? = some step → (run.after (steps.take number)).HandsOver step

theorem HandsOver.of_presented {run : Run} {step : Step} {actor : Nat}
    {manifest : List (Text × Json)} (handsOver : run.HandsOver step)
    (presents : run.presented? step = some (actor, manifest)) :
    ∃ made volume edit, run.volumes.lookup made = some volume ∧ edit.IsHonest
      ∧ manifest = (Edit.apply edit volume).manifestMembers := by
  unfold presented? at presents
  split at presents
  · cases presents
    exact handsOver
  · rcases Option.map_eq_some_iff.mp presents with ⟨volume, found, equal⟩
    cases equal
    exact ⟨_, volume, _, found, handsOver, rfl⟩
  · cases presents

theorem actor_eq_of_identity {run : Run} {actor other : Nat} {provisioner another : Provisioner}
    (distinct : (run.provisioners.map Provisioner.identity).Nodup)
    (acts : run.provisioners[actor]? = some provisioner)
    (otherActs : run.provisioners[other]? = some another)
    (same : provisioner.identity = another.identity) : actor = other := by
  have short : actor < (run.provisioners.map Provisioner.identity).length := by
    rw [List.length_map]
    exact (List.getElem?_eq_some_iff.mp acts).1
  refine (List.getElem?_inj short distinct).mp ?_
  rw [List.getElem?_map, List.getElem?_map, acts, otherActs, Option.map_some, Option.map_some,
    same]

/-- Whatever the order of steps, a provisioner destroys a share only if it has itself
created that share for a volume, and then only together with the volume's user. -/
theorem destroys_own_shares (store : Store) (descriptions : List Description) (world : World)
    (steps : List Step) :
    let run := Run.start store descriptions world
    (run.provisioners.map Provisioner.identity).Nodup → run.AllHandOver steps →
    ∀ number actor invocation share user, run.Ran steps number actor invocation →
      invocation.Destroys share user →
      (∃ made claim volume creation created, made < number
        ∧ run.Returned steps made actor claim volume ∧ volume.grantedUser = .text user
        ∧ run.Ran steps made actor creation ∧ creation.Creates share created)
      ∧ ∀ other creator creation created, run.Ran steps other creator creation →
        creation.Creates share created → creator = actor := by
  intro run distinct handOver number actor invocation share user ran destroys
  rcases ran.destroys destroys with
    ⟨step, manifest, provisioner, volume, is, presents, acts, read, seeks, isShare, isUser⟩
  rcases (handOver number step is).of_presented presents with
    ⟨made, original, edit, found, honest, rfl⟩
  rcases (lookup_volumes_iff rfl).mp found with ⟨maker, claim, returnedBefore⟩
  rcases returnedBefore.of_take with ⟨before, returned⟩
  rcases returned.published with
    ⟨creator, parameters, connection, creation, record, exportPath, key, creates, publishes,
      rfl, created⟩
  -- Reading back fills in defaults, but neither touches the annotations nor the user.
  obtain rfl := Volume.eq_reread (Edit.apply_isRenderable Provisioner.volumeFor_isRenderable) read
  have left : (edit.apply _).IsStamped provisioner.identity share :=
    ⟨(Ownership.verify_eq_owned_iff.mp seeks.owned).1, isShare⟩
  rcases Edit.stamp_of_apply honest Provisioner.volumeFor_isStamped left with ⟨same, rfl⟩
  cases actor_eq_of_identity distinct acts creates same
  constructor
  · exact ⟨made, claim, _, creation, _, before, returned, isUser, created,
      publishes.creates⟩
  · intro other otherCreator otherCreation otherUser otherRan otherCreates
    exact (otherRan.number_eq otherCreates created publishes.creates).2

def sampleDestruction : Agent.Invocation where
  arguments := Agent.defaultPath :: Agent.words .destroy sampleWorld.nextShare "u"
  environment := [("CLUSTER_NAME", "ceph"), ("MONITORS", "m"), ("AUTH_ID", "admin"),
    ("AUTH_KEY", "k")]

theorem destroys_own_shares_sample :
    (sample.provisioners.map Provisioner.identity).Nodup ∧ sample.AllHandOver sampleSteps
      ∧ sample.Ran sampleSteps 1 0 sampleDestruction
      ∧ sampleDestruction.Destroys sampleWorld.nextShare "u"
      ∧ ∃ made claim volume creation created, made < 1
        ∧ sample.Returned sampleSteps made 0 claim volume ∧ volume.grantedUser = .text "u"
        ∧ sample.Ran sampleSteps made 0 creation
        ∧ creation.Creates sampleWorld.nextShare created := by
  have distinct : (sample.provisioners.map Provisioner.identity).Nodup := by decide +kernel
  have handOver : sample.AllHandOver sampleSteps := by
    intro number step is
    match number with
    | 0 => cases is; trivial
    | 1 => cases is; exact ⟨by decide, by decide⟩
    | number + 2 => cases is
  have ran : sample.Ran sampleSteps 1 0 sampleDestruction := by decide +kernel
  have destroys : sampleDestruction.Destroys sampleWorld.nextShare "u" := ⟨_, rfl⟩
  exact ⟨distinct, handOver, ran, destroys, (destroys_own_shares _ _ _ sampleSteps distinct
    handOver 1 0 sampleDestruction _ _ ran destroys).1⟩

end Run

end ShareProvisioner
