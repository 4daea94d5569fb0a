import Rollout.Rehearsal.Backend

/-!
# The surroundings of a rehearsal

What a rehearsed update finds around it: its backend, whether it was told to stop, and how many
calls were made. Others act on these at times and at calls that are laid down beforehand.
-/

namespace Rollout.Rehearsal

open Update

inductive Action where
  | change (change : Group.Change)
  /-- Tells the update to stop. -/
  | stop
  deriving DecidableEq, Repr

inductive Moment where
  | before
  | after
  deriving DecidableEq, Repr

/-- Actions that are done at one call. -/
structure Hook where
  kind : Call.Kind
  /-- The number of the call among those of its kind, counted from one. -/
  number : Nat
  moment : Moment
  actions : List Action

/-- What stays the same during a rehearsal. -/
structure Setup where
  plan : Plan
  /-- How long calls take, by their kind. -/
  delay : Call.Kind → Nat
  hooks : List Hook

def Setup.actionsAt (setup : Setup) (kind : Call.Kind) (number : Nat) (moment : Moment) :
    List Action :=
  (setup.hooks.filter fun hook =>
    hook.kind = kind ∧ hook.number = number ∧ hook.moment = moment).flatMap Hook.actions

structure Counts where
  list : Nat := 0
  health : Nat := 0
  destroy : Nat := 0
  deriving DecidableEq, Repr

namespace Counts

def get (c : Counts) : Call.Kind → Nat
  | .list => c.list
  | .health => c.health
  | .destroy => c.destroy

def bump (c : Counts) : Call.Kind → Counts
  | .list => { c with list := c.list + 1 }
  | .health => { c with health := c.health + 1 }
  | .destroy => { c with destroy := c.destroy + 1 }

end Counts

structure World where
  backend : Backend
  stopped : Bool := false
  calls : Counts := {}

namespace World

/-- The surroundings after an action, and what is told about it. To stop more than once makes
no difference. -/
def act (plan : Plan) (w : World) : Action → World × List Note
  | .change change =>
    let (backend, notes) := w.backend.apply change
    ({ w with backend }, notes)
  | .stop =>
    ({ w with stopped := true }, if w.stopped then [] else [.stopRequested plan.description])

def actAll (plan : Plan) (w : World) : List Action → World × List Note
  | [] => (w, [])
  | action :: rest =>
    let (w, notes) := w.act plan action
    let (w, others) := w.actAll plan rest
    (w, notes ++ others)

end World

end Rollout.Rehearsal
