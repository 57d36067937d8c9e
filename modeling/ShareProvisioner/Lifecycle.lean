import ShareProvisioner.Provisioner

/-!
# Lifecycles

A lifecycle is a sequence of steps in one world: provisioners satisfy claims and delete
volumes, and the secrets and classes in memory change in between.  A volume that a step
provisioned is kept under the number of that step, so that a later step can hand its
published object, possibly edited, to a provisioner.
-/

namespace ShareProvisioner

/-- Changes to a published object: annotations to set, then annotations to drop, and
whether its class is dropped. -/
structure Edit where
  set : List (Text × Json) := []
  drop : List Text := []
  dropClass : Bool := false
deriving DecidableEq

def Edit.apply (edit : Edit) (volume : Volume) : Volume :=
  let annotations := volume.annotations.insertAll (Mapping.ofMembers edit.set)
  { volume with
    annotations := edit.drop.foldl (fun kept name => kept.erase (.text name)) annotations
    storageClass := if edit.dropClass then .null else volume.storageClass }

/-- What a provisioner is made from; what is not given has a default. -/
structure Description where
  identity : Option Text := none
  name : Option Text := none
  agentPath : Option Text := none
deriving DecidableEq, Repr

inductive Step where
  | provision (actor : Nat) (claim : Claim)
  | delete (actor : Nat) (manifest : List (Text × Json))
  | deleteMade (actor made : Nat) (edit : Edit)
  | identify (actor : Nat)
  | putSecret (namespaceName name : Text) (data : SecretData)
  | dropSecret (namespaceName name : Text)
  | putClass (name : Text) (parameters : Mapping)
  | dropClass (name : Text)
deriving DecidableEq

inductive StepResult where
  | volume (volume : Volume)
  | deletion (deletion : Deletion)
  | noVolume
  | provisioner (provisioner : Provisioner)
  | stored
  | dropped (present : Bool)
  | failed (failure : Failure)
deriving DecidableEq

structure Report where
  result : StepResult
  calls : List Call
deriving DecidableEq

structure Run where
  store : Store
  provisioners : List Provisioner
  volumes : List (Nat × Volume) := []
  world : World

namespace Run

def makeProvisioners (world : World) : List Description → List Provisioner × World
  | [] => ([], world)
  | description :: rest =>
      match Action.runIn world
          (Provisioner.make description.identity description.name description.agentPath) with
      | (.error _, world) => makeProvisioners world rest
      | (.ok provisioner, world) =>
          let (others, world) := makeProvisioners world rest
          (provisioner :: others, world)

def start (store : Store) (descriptions : List Description) (world : World) : Run :=
  let (provisioners, world) := makeProvisioners world descriptions
  { store, provisioners, world }

/-- Performs an action on its own: the calls reported are those that it makes. -/
def act {α : Type} (run : Run) (action : Action α) (result : α → StepResult) : Report × Run :=
  let (outcome, world) := Action.runIn { run.world with calls := [] } action
  let report : Report := {
    result := match outcome with
      | .ok value => result value
      | .error failure => .failed failure
    calls := world.calls }
  (report, { run with world })

def byActor {α : Type} (run : Run) (actor : Nat) (action : Provisioner → Action α) : Action α :=
  match run.provisioners[actor]? with
  | some provisioner => action provisioner
  | none => throw (.unexpected .noProvisioner)

def deleteObject (run : Run) (actor : Nat) (manifest : List (Text × Json)) : Action Deletion :=
  run.byActor actor fun provisioner => do
    let volume ← Action.lift (Volume.ofManifest manifest)
    provisioner.delete run.store volume

def changeMemory (run : Run) (result : StepResult) (change : Memory → Memory) : Report × Run :=
  ({ result, calls := [] },
    { run with world := { run.world with memory := change run.world.memory } })

def perform (run : Run) (number : Nat) : Step → Report × Run
  | .provision actor claim =>
      let (report, run) := run.act (run.byActor actor (·.provision run.store claim)) .volume
      match report.result with
      | .volume volume => (report, { run with volumes := (number, volume) :: run.volumes })
      | _ => (report, run)
  | .delete actor manifest => run.act (run.deleteObject actor manifest) .deletion
  | .deleteMade actor made edit =>
      match run.volumes.lookup made with
      | none => ({ result := .noVolume, calls := [] }, run)
      | some volume =>
          run.act (run.deleteObject actor (edit.apply volume).manifestMembers) .deletion
  | .identify actor => run.act (run.byActor actor pure) .provisioner
  | .putSecret namespaceName name data =>
      run.changeMemory .stored (·.withSecret namespaceName name data)
  | .dropSecret namespaceName name =>
      run.changeMemory (.dropped (run.world.memory.secrets.find? (namespaceName, name)).isSome)
        (·.withoutSecret namespaceName name)
  | .putClass name parameters => run.changeMemory .stored (·.withClass name parameters)
  | .dropClass name =>
      run.changeMemory (.dropped (run.world.memory.classes.find? name).isSome) (·.withoutClass name)

/-- Performs the steps in order, the first of which has the given number. -/
def performAll (run : Run) (number : Nat) : List Step → List Report × Run
  | [] => ([], run)
  | step :: steps =>
      let (report, run) := run.perform number step
      let (reports, run) := run.performAll (number + 1) steps
      (report :: reports, run)

end Run

end ShareProvisioner
