import Rollout.Settings
import Rollout.Text.Count
import Rollout.Text.Quoted

/-!
# Options

The options of a controller, looked up by name. The poll interval is read first, so a fault in
it is reported also where the policy is at fault too.
-/

namespace Rollout

structure Options where
  /-- The time between two polls, in milliseconds. -/
  pollInterval : Nat := 10000
  /-- The slot of the instance on which the controller runs. -/
  selfSlot : Option String := none
  policy : SelfPolicy := .last
  deriving DecidableEq, Repr

namespace Options

def unset : Options := {}

def pollIntervalKey : String := "FLEET_GROUP_POLL_INTERVAL_MS"

def selfSlotKey : String := "FLEET_GROUP_SELF_LOGICAL_ID"

def policyKey : String := "FLEET_GROUP_POLICY_LEADER_SELF_UPDATE"

inductive Fault where
  | pollInterval (text : String) (cause : Text.CountFault)
  | zeroPollInterval
  | policy (cause : SelfPolicy.Unknown)
  deriving DecidableEq, Repr

namespace Fault

def message : Fault → String
  | .pollInterval text _ => "invalid " ++ pollIntervalKey ++ ": " ++ Text.quoted text
  | .zeroPollInterval => pollIntervalKey ++ " must be greater than zero"
  | .policy _ => "invalid " ++ policyKey

/-- What a fault comes from, the nearest first. -/
def causes : Fault → List String
  | .pollInterval _ cause => [cause.message]
  | .zeroPollInterval => []
  | .policy cause => [cause.message]

end Fault

def readPollInterval (text : String) : Except Fault Nat :=
  match Text.readCount (Text.trim text) with
  | .error cause => .error (.pollInterval text cause)
  | .ok 0 => .error .zeroPollInterval
  | .ok n => .ok n

/-- The slot that a text gives: blank text gives none. -/
def readSelfSlot (text : String) : Option String :=
  let slot := Text.trim text
  if slot = "" then none else some slot

def readPolicy (text : String) : Except Fault SelfPolicy :=
  match SelfPolicy.ofText text with
  | .error cause => .error (.policy cause)
  | .ok policy => .ok policy

/-- Reads an option, or takes its default where it is absent. -/
def readOr {α : Type} (text : Option String) (read : String → Except Fault α) (default : α) :
    Except Fault α :=
  match text with
  | some text => read text
  | none => .ok default

def load (lookup : String → Option String) : Except Fault Options := do
  let pollInterval ← readOr (lookup pollIntervalKey) readPollInterval unset.pollInterval
  let selfSlot := (lookup selfSlotKey).bind readSelfSlot
  let policy ← readOr (lookup policyKey) readPolicy unset.policy
  return { pollInterval, selfSlot, policy }

def apply (o : Options) (s : Settings) : Settings :=
  { s with selfSlot := o.selfSlot, policy := o.policy }

end Options

end Rollout
