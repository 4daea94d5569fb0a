import Rollout.Instance.Basic
import Rollout.Log.Record

/-!
# Notes

What groups and updates tell about themselves while they work. `Note.record` is the wording of a
note in the log.
-/

namespace Rollout

/-- Something that a group or an update tells about itself. -/
inductive Note where
  /-- A group was told to destroy an instance that it does not have. -/
  | unknownInstance (id : String)
  /-- A group destroyed an instance. -/
  | destroyed (id : String) (reason : Reason)
  /-- A group put one instance in the place of another. -/
  | replaced (id old : String) (revision : Revision)
  /-- An update was told to stop for the first time. -/
  | stopRequested (update : String)
  /-- A run begins with so many instances that are as wanted. -/
  | starting (expected size : Nat)
  /-- Enough instances are healthy. -/
  | quiesced (required : Nat)
  /-- A run destroys one of the instances that are left to replace. -/
  | destroying (left : Nat) (id : String) (reason : Reason)
  /-- There is nothing left to replace. -/
  | complete
  /-- An update ends because it was told to stop. -/
  | halted (update : String)
  /-- Not enough instances are healthy, although the health of all is known. -/
  | waiting (healthy expected : Nat)
  /-- Not enough instances are healthy, and of some the health is not known. -/
  | waitingUnknown (healthy unknown expected : Nat)
  /-- An instance is unhealthy, which ends the update. -/
  | unhealthy (id : String)
  /-- The health of an instance is not known. -/
  | unknownHealth (id : String)
  deriving DecidableEq, Repr

namespace Note

def groupTarget : String := "fleet_reconcile::memory"

def updateTarget : String := "fleet_reconcile::rolling"

def record : Note → Log.Record
  | .unknownInstance id =>
    ⟨.debug, groupTarget, "Destroy of unknown instance ignored", [("instance_id", .str id)]⟩
  | .destroyed id reason =>
    ⟨.info, groupTarget, "Destroyed instance",
      [("instance_id", .str id), ("reason", .str reason.name)]⟩
  | .replaced id old revision =>
    ⟨.info, groupTarget, "Created replacement instance",
      [("instance_id", .str id), ("replaces", .str old), ("config", .str revision)]⟩
  | .stopRequested update =>
    ⟨.info, updateTarget, "Stop requested", [("update", .str update)]⟩
  | .starting expected size =>
    ⟨.info, updateTarget, "Starting rolling update",
      [("expected_new_instances", .ofNat expected), ("allocation_size", .ofNat size)]⟩
  | .quiesced required =>
    ⟨.info, updateTarget, "Group has quiesced", [("required", .ofNat required)]⟩
  | .destroying left id reason =>
    ⟨.info, updateTarget, "Destroying undesired instance",
      [("undesired", .ofNat left), ("instance_id", .str id), ("reason", .str reason.name)]⟩
  | .complete => ⟨.info, updateTarget, "Rolling update complete", []⟩
  | .halted update => ⟨.warn, updateTarget, "Update halted by user", [("update", .str update)]⟩
  | .waiting healthy expected =>
    ⟨.info, updateTarget, "Waiting for group to quiesce",
      [("healthy", .ofNat healthy), ("expected", .ofNat expected)]⟩
  | .waitingUnknown healthy unknown expected =>
    ⟨.info, updateTarget, "Waiting for group to quiesce; some instances report unknown health",
      [("healthy", .ofNat healthy), ("unknown", .ofNat unknown), ("expected", .ofNat expected)]⟩
  | .unhealthy id =>
    ⟨.warn, updateTarget, "Instance is unhealthy, aborting update", [("instance_id", .str id)]⟩
  | .unknownHealth id =>
    ⟨.debug, updateTarget, "Instance health is unknown", [("instance_id", .str id)]⟩

end Note

end Rollout
