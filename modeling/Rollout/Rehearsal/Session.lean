import Rollout.Rehearsal.Finish

/-!
# Sessions

A session rehearses one update in several steps, which share their surroundings: calls go on to
be counted, and an update that was told to stop stays so. Each step has a clock of its own.
-/

namespace Rollout.Rehearsal

open Update

inductive Step where
  /-- Runs the update. -/
  | run (period deadline : Nat) (agenda : List (Nat × Action))
  /-- Waits for so many healthy instances. -/
  | wait (threshold period deadline : Nat) (agenda : List (Nat × Action))
  | act (action : Action)
  /-- Asks what the update is about. -/
  | explain

inductive Result where
  | ended (ending : Ending)
  /-- The update had not ended at the deadline, and was abandoned. -/
  | pending
  | acted
  | explained (plan : Plan)

structure Report where
  result : Result
  /-- How long the step took, in milliseconds. -/
  elapsed : Nat := 0
  world : World
  journal : Array Entry := #[]

def Play.start (w : World) (status : Status) (agenda : List (Nat × Action)) : Play :=
  { world := w, status, agenda := agenda.mergeSort fun a b => decide (a.1 ≤ b.1) }

def Play.report (p : Play) : Report :=
  { result :=
      match p.status with
      | .ended ending => .ended ending
      | _ => .pending
    elapsed := p.now
    world := p.world
    journal := p.journal }

def Setup.perform (setup : Setup) (w : World) : Step → Report
  | .run period deadline agenda =>
    ((Play.start w (.calling .survey) agenda).finish setup period deadline).report
  | .wait threshold period deadline agenda =>
    ((Play.start w (await period 0 (.wait threshold)) agenda).finish setup period deadline).report
  | .act action =>
    let (world, notes) := w.act setup.plan action
    { result := .acted, world, journal := (notes.map (Entry.note 0)).toArray }
  | .explain => { result := .explained setup.plan, world := w }

def Setup.performAll (setup : Setup) (w : World) : List Step → List Report
  | [] => []
  | step :: rest =>
    let report := setup.perform w step
    report :: setup.performAll report.world rest

end Rollout.Rehearsal
