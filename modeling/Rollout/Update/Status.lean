import Rollout.Note
import Rollout.Update.Plan
import Rollout.Update.Ticker

/-!
# The course of an update

An update either waits for its ticker or has made a call and waits for the answer. `Plan.wake`
and `Plan.resume` say how it goes on; what happens in between, and how long it takes, is left to
the surroundings.

A run lists the group once to count the instances that are as wanted, and then alternates: it
waits until enough of them are healthy, lists the group again, and destroys the first of the
instances that are left to replace. In a wait each tick starts a poll, which lists the group and
asks for the health of every instance that is as wanted.
-/

namespace Rollout.Update

inductive Aim where
  /-- A wait by itself, for so many healthy instances. -/
  | wait (threshold : Nat)
  /-- The wait of a run in which so many instances should be as wanted by now. -/
  | replace (expected : Nat)
  deriving DecidableEq, Repr

/-- How many healthy instances end a wait. A run never asks for more than the group is to
have. -/
def Aim.threshold (plan : Plan) : Aim → Nat
  | .wait threshold => threshold
  | .replace expected => min expected plan.target.size

/-- The answers of a poll so far. -/
structure Tally where
  healthy : Nat := 0
  unknown : Nat := 0
  deriving DecidableEq, Repr

inductive Stage where
  /-- A run lists the group for the first time. -/
  | survey
  /-- A poll lists the group. -/
  | poll (aim : Aim) (ticker : Ticker)
  /-- A poll asks for the health of an instance, and then of others. -/
  | probe (aim : Aim) (ticker : Ticker) (tally : Tally) (current : Instance)
      (rest : List Instance)
  /-- A run lists the group to choose the next instance to destroy. -/
  | choose (expected : Nat)
  /-- A run destroys an instance. -/
  | destroy (expected : Nat) (victim : Instance)

@[reducible] def Stage.call : Stage → Call
  | .survey => .list
  | .poll .. => .list
  | .probe _ _ _ current _ => .health current
  | .choose _ => .list
  | .destroy _ victim => .destroy victim .rollingUpdate

inductive Status where
  | waiting (aim : Aim) (ticker : Ticker)
  | calling (stage : Stage)
  | ended (ending : Ending)

/-- A step of an update: where it stands then, and what it tells about it. -/
structure Move where
  status : Status
  notes : List Note := []

/-- The beginning of a wait, which needs a period other than zero. -/
def await (period now : Nat) (aim : Aim) : Status :=
  if h : 0 < period then .waiting aim (.start period now h) else .ended .noPeriod

def Move.fail (fault : Fault) (notes : List Note := []) : Move := ⟨.ended (.failed fault), notes⟩

namespace Plan

def waitNote (plan : Plan) (aim : Aim) (tally : Tally) : Note :=
  if 0 < tally.unknown then
    .waitingUnknown tally.healthy tally.unknown (aim.threshold plan)
  else .waiting tally.healthy (aim.threshold plan)

/-- The end of a poll in which no instance was unhealthy. -/
def settle (plan : Plan) (aim : Aim) (ticker : Ticker) (tally : Tally) : Move :=
  if aim.threshold plan ≤ tally.healthy then
    match aim with
    | .wait _ => ⟨.ended .done, []⟩
    | .replace expected => ⟨.calling (.choose expected), [.quiesced (aim.threshold plan)]⟩
  else ⟨.waiting aim ticker, [plan.waitNote aim tally]⟩

/-- Goes on with a poll: asks for the health of the next instance, or comes to the end. -/
def pollOn (plan : Plan) (aim : Aim) (ticker : Ticker) (tally : Tally) : List Instance → Move
  | current :: rest => ⟨.calling (.probe aim ticker tally current rest), []⟩
  | [] => plan.settle aim ticker tally

/-- The next instance to destroy, of those in a snapshot that are to be replaced. -/
def proceed (plan : Plan) (expected : Nat) (snapshot : List Instance) : Move :=
  match plan.source.destroyOrder (plan.target.unwanted snapshot) with
  | [] => ⟨.ended .done, [.complete]⟩
  | victim :: others =>
    ⟨.calling (.destroy expected victim),
      [.destroying (others.length + 1) victim.id .rollingUpdate]⟩

def resume (plan : Plan) (period now : Nat) : (stage : Stage) → stage.call.Answer → Move
  | .survey, .error causes => .fail (.snapshot causes)
  | .survey, .ok snapshot =>
    let expected := (plan.target.wanted snapshot).length
    ⟨await period now (.replace expected), [.starting expected plan.target.size]⟩
  | .poll _ _, .error causes => .fail (.snapshot causes)
  | .poll aim ticker, .ok snapshot => plan.pollOn aim ticker {} (plan.target.wanted snapshot)
  | .probe aim ticker tally _ rest, .healthy =>
    plan.pollOn aim ticker { tally with healthy := tally.healthy + 1 } rest
  | .probe _ _ _ current _, .unhealthy =>
    .fail (.unhealthy current.id) [.unhealthy current.id]
  | .probe aim ticker tally current rest, .unknown =>
    let move := plan.pollOn aim ticker { tally with unknown := tally.unknown + 1 } rest
    { move with notes := .unknownHealth current.id :: move.notes }
  | .choose _, .error causes => .fail (.snapshot causes)
  | .choose expected, .ok snapshot => plan.proceed expected snapshot
  | .destroy expected _, () => ⟨await period now (.replace (expected + 1)), []⟩

/-- How an update goes on that waits: it ends if it was told to stop, else it polls if a tick is
due. None where neither is the case. -/
def wake (plan : Plan) (now : Nat) (stopped : Bool) (aim : Aim) (ticker : Ticker) : Option Move :=
  if stopped then some (.fail .halted [.halted plan.description])
  else if ticker.due ≤ now then some ⟨.calling (.poll aim (ticker.advance now)), []⟩
  else none

end Plan

end Rollout.Update
