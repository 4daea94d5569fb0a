import Rollout.Settings

/-!
# Plans

The transition that an update makes, what can end it before its end, and the calls that it makes
to a group.
-/

namespace Rollout.Update

/-- A transition of a group from one configuration to another. -/
structure Plan where
  description : String
  source : Settings
  target : Settings
  deriving DecidableEq, Repr

inductive Fault where
  /-- The group could not be listed, for the reasons given, the outermost first. -/
  | snapshot (causes : List String)
  /-- An instance that is as wanted is unhealthy. -/
  | unhealthy (id : String)
  /-- The update was told to stop. -/
  | halted
  deriving DecidableEq, Repr

namespace Fault

def message : Fault → String
  | .snapshot _ => "failed to list group instances"
  | .unhealthy id => "instance " ++ id ++ " is unhealthy"
  | .halted => "update halted by user"

/-- What a fault comes from, the nearest first. -/
def causes : Fault → List String
  | .snapshot causes => causes
  | _ => []

def isHalted : Fault → Bool
  | .halted => true
  | _ => false

/-- Whether something is wrong with the group. -/
def isFatal (f : Fault) : Bool := !f.isHalted

end Fault

inductive Ending where
  | done
  | failed (fault : Fault)
  /-- A wait was to begin with a poll interval of zero. -/
  | noPeriod
  deriving DecidableEq, Repr

inductive Call where
  | list
  | health (i : Instance)
  | destroy (i : Instance) (reason : Reason)

@[reducible] def Call.Answer : Call → Type
  | .list => Except (List String) (List Instance)
  | .health _ => Health
  | .destroy .. => Unit

inductive Call.Kind where
  | list
  | health
  | destroy
  deriving DecidableEq, Repr

def Call.kind : Call → Call.Kind
  | .list => .list
  | .health _ => .health
  | .destroy .. => .destroy

end Rollout.Update
