import Rollout.Rehearsal.World
import Rollout.Update.Status

/-!
# Rehearsals on a clock of their own

An update is played on a clock that jumps to the next time at which something is due. At each
time the actions due are done first, and then the update goes on as far as it can. `Play.finish`
plays it to its end or to a deadline; that it comes to one of them is `Play.step_lt`: time goes
on, or at the same time there are fewer actions to do, fewer ticks to make up for, or the update
comes nearer to its next wait.
-/

namespace Rollout.Rehearsal

open Update

inductive Entry where
  /-- A call that was begun at a time, with its answer. -/
  | call (time : Nat) (call : Call) (answer : call.Answer)
  | note (time : Nat) (note : Note)

structure Begun where
  since : Nat
  ready : Nat
  deriving DecidableEq, Repr

/-- An update at one point of its rehearsal. -/
structure Play where
  now : Nat := 0
  world : World
  status : Status
  /-- The call of the present stage, once it was begun. -/
  begun : Option Begun := none
  /-- What others have yet to do, and when, in the order of the times. -/
  agenda : List (Nat × Action) := []
  journal : Array Entry := #[]

/-- What an update does next: nothing more, something at once, or nothing before a time. -/
inductive Next where
  | over
  | now (play : Play)
  | later (time : Nat)

namespace Play

def tell (p : Play) (notes : List Note) : Play :=
  { p with journal := p.journal ++ notes.map (Entry.note p.now) }

def act (p : Play) (plan : Plan) (actions : List Action) : Play :=
  let (world, notes) := p.world.actAll plan actions
  { p.tell notes with world }

def enter (p : Play) (move : Move) : Play :=
  { p.tell move.notes with status := move.status, begun := none }

def begin (p : Play) (setup : Setup) (kind : Call.Kind) : Play :=
  let calls := p.world.calls.bump kind
  let counted := { p with world := { p.world with calls } }
  let hooked := counted.act setup.plan (setup.actionsAt kind (calls.get kind) .before)
  { hooked with begun := some ⟨p.now, p.now + min (setup.delay kind) Update.longestWait⟩ }

/-- Has a call answered, puts it on record, lets others act, and goes on with the update. -/
def complete (p : Play) (setup : Setup) (period : Nat) (stage : Stage) (since : Nat) : Play :=
  let (answer, backend, notes) := p.world.backend.answer p.world.calls.list stage.call
  let told := { p with world := { p.world with backend } }.tell notes
  let recorded := { told with journal := told.journal.push (.call since stage.call answer) }
  let kind := stage.call.kind
  let hooked :=
    recorded.act setup.plan (setup.actionsAt kind (p.world.calls.get kind) .after)
  hooked.enter (setup.plan.resume period p.now stage answer)

/-- What the update does next, when nothing is left for others to do at this time. -/
def next (p : Play) (setup : Setup) (period : Nat) : Next :=
  match p.status with
  | .ended _ => .over
  | .waiting aim ticker =>
    match setup.plan.wake p.now p.world.stopped aim ticker with
    | some move => .now (p.enter move)
    | none => .later ticker.due
  | .calling stage =>
    match p.begun with
    | none => .now (p.begin setup stage.call.kind)
    | some begun =>
      if begun.ready ≤ p.now then .now (p.complete setup period stage begun.since)
      else .later begun.ready

def due? (p : Play) : Option (Action × List (Nat × Action)) :=
  match p.agenda with
  | [] => none
  | (time, action) :: rest => if time ≤ p.now then some (action, rest) else none

/-- The time to which the clock jumps, where the update has nothing to do before `time`. -/
def nextTime (p : Play) (deadline time : Nat) : Nat :=
  match p.agenda with
  | [] => min deadline time
  | (other, _) :: _ => min deadline (min time other)

/-- One step of a rehearsal: an action, a step of the update, or a jump of the clock. None when
the update has ended or the deadline is reached. -/
def step (p : Play) (setup : Setup) (period deadline : Nat) : Option Play :=
  match p.due? with
  | some (action, agenda) => some ({ p with agenda }.act setup.plan [action])
  | none =>
    match p.next setup period with
    | .over => none
    | .now q => some q
    | .later time =>
      if deadline ≤ p.now then none else some { p with now := p.nextTime deadline time }

end Play

end Rollout.Rehearsal
