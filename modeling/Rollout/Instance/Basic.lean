import Rollout.Dictionary
import Rollout.Json.Basic
import Rollout.Revision

/-!
# Instances

Snapshots of the members of a group, as their backend reports them. An instance has an id of its
own, and possibly the logical id of the slot that it fills, which its replacements take over.
The revision of its spec, and the slot where the backend has no other place for it, are tags.
-/

namespace Rollout

/-- The tags of an instance. Two keys have a meaning here; all others are passed through. -/
abbrev Tags := Dictionary String

namespace Tags

/-- The key of the tag with the revision of the spec that the instance was created from. -/
def revisionKey : String := "fleet.config.hash"

/-- The key of the tag with the logical id, for backends that have no other place for it. -/
def slotKey : String := "fleet.logical_id"

def revision? (tags : Tags) : Option Revision := tags.get? revisionKey

def slot? (tags : Tags) : Option String := tags.get? slotKey

end Tags

structure Instance where
  id : String
  slot : Option String
  tags : Tags
  properties : Option Json

namespace Instance

def ofId (id : String) : Instance := ⟨id, none, ∅, none⟩

def withSlot (i : Instance) (slot : String) : Instance := { i with slot := some slot }

def withTag (i : Instance) (key value : String) : Instance :=
  { i with tags := i.tags.insert key value }

def withRevision (i : Instance) (revision : Revision) : Instance :=
  i.withTag Tags.revisionKey revision

def withProperties (i : Instance) (properties : Json) : Instance :=
  { i with properties := some properties }

def revision? (i : Instance) : Option Revision := Tags.revision? i.tags

def hasRevision (revision : Revision) (i : Instance) : Bool := i.revision? == some revision

end Instance

inductive Health where
  | healthy
  | unhealthy
  | unknown
  deriving DecidableEq, Repr

namespace Health

def name : Health → String
  | .healthy => "healthy"
  | .unhealthy => "unhealthy"
  | .unknown => "unknown"

def ofName? : String → Option Health
  | "healthy" => some .healthy
  | "unhealthy" => some .unhealthy
  | "unknown" => some .unknown
  | _ => none

end Health

inductive Reason where
  | rollingUpdate
  | termination
  | manual
  deriving DecidableEq, Repr

namespace Reason

def name : Reason → String
  | .rollingUpdate => "rolling-update"
  | .termination => "termination"
  | .manual => "manual"

def ofName? : String → Option Reason
  | "rolling-update" => some .rollingUpdate
  | "termination" => some .termination
  | "manual" => some .manual
  | _ => none

end Reason

end Rollout
