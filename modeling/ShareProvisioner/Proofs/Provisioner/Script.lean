import ShareProvisioner.Proofs.Outside.Script
import ShareProvisioner.Provisioner

/-!
# Provisioners follow a script

With secrets and classes in memory, all that provisioners do depends on the script only
through the outcomes of the runs of the agent that they make.
-/

namespace ShareProvisioner

open ShareProvisioner.Action

namespace Memory

theorem follows_readSecret (secret : SecretReference) : Follows (readSecret secret) := by
  refine .bind (.note rfl) fun _ => ?_
  refine .bind (.guarded _) fun _ => .bind (.guarded _) fun _ => ?_
  refine .get_bind (fun world => ?_) fun _ _ => rfl
  cases world.memory.secret? secret with
  | none => exact .refuse _
  | some data => exact .pure data

theorem follows_readClass (name : Json) : Follows (readClass name) := by
  refine .bind (.note rfl) fun _ => .bind (.guarded _) fun _ => ?_
  cases name with
  | text className =>
      refine .get_bind (fun world => ?_) fun _ _ => rfl
      cases world.memory.classes.find? className with
      | none => exact .refuse _
      | some parameters => exact .pure _
  | _ => exact .refuse _

theorem follows_createSecret (namespaceName name : Text) (entries : List (Text × Octets)) :
    Follows (Store.memory.createSecret ⟨.text namespaceName, .text name⟩ (.ofOctets entries)) := by
  refine .of_idle (fun world => ?_) fun world runs => ?_
  · rw [Store.runIn_createSecret_memory]
    split
    · exact Call.launches_append _ _
    · exact Call.launches_append _ _
  · rw [Store.runIn_createSecret_memory, Store.runIn_createSecret_memory,
      World.memory_rescripted]
    split
    · rfl
    · rfl

end Memory

theorem Store.follows_connect (parameters : ClusterParameters) :
    Follows (Store.memory.connect parameters) :=
  .bind (.bind (Memory.follows_readSecret _) fun _ => .checked _) fun _ => .pure _

namespace Provisioner

variable (provisioner : Provisioner)

theorem follows_runAgent (mode : Agent.Mode) (share user : Json) (connection : Connection) :
    Follows (provisioner.runAgent mode share user connection) :=
  .bind (.guarded _) fun invocation => .bind (.launch invocation) fun _ => .checked _

theorem follows_createShare (share user : Text) (connection : Connection) :
    Follows (provisioner.createShare share user connection) :=
  .bind (provisioner.follows_runAgent _ _ _ _) fun _ => .checked _

theorem follows_destroyShare (share user : Json) (connection : Connection) :
    Follows (provisioner.destroyShare share user connection) :=
  .bind (provisioner.follows_runAgent _ _ _ _) fun _ => .pure _

theorem follows_allocate (claim : Claim) (connection : Connection) (share user : Text) :
    Follows (provisioner.allocate .memory claim connection share user) := by
  refine .bind (provisioner.follows_createShare _ _ _) fun record => ?_
  refine .bind (.checked _) fun exportPath => .bind (.guarded _) fun key => ?_
  exact .bind (Memory.follows_createSecret _ _ [(secretEntry, key)]) fun _ => .pure _

theorem follows_provision (claim : Claim) :
    Follows (provisioner.provision .memory claim) := by
  unfold provision
  split
  · exact .refuse_bind _ _
  · refine .bind (.lift _) fun parameters => .bind (Store.follows_connect _) fun connection => ?_
    refine .bind .freshIdentifier fun share => .bind .freshIdentifier fun user => ?_
    exact provisioner.follows_allocate claim connection _ _

theorem follows_delete (volume : Volume) : Follows (provisioner.delete .memory volume) := by
  unfold delete
  cases Ownership.verify volume provisioner.identity with
  | notFound => exact .refuse _
  | notMine => exact .pure _
  | owned =>
  dsimp only
  cases volume.grantedUser.isTruthy with
  | false => exact .refuse_bind _ _
  | true =>
  rw [if_neg (by simp)]
  cases volume.className.isTruthy with
  | false => exact .refuse_bind _ _
  | true =>
  rw [if_neg (by simp)]
  refine .bind (Memory.follows_readClass _) fun storageClass => .bind (.lift _) fun parameters => ?_
  refine .bind (Store.follows_connect parameters) fun connection => ?_
  exact .bind (provisioner.follows_destroyShare _ _ connection) fun _ => .pure _

end Provisioner

end ShareProvisioner
