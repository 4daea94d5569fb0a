import Mathlib
import Rollout.Json.Canonical
import Rollout.Simulation.Program

/-!
# The command line of the simulator

Runs a simulation at the pace of the real clock, and writes its log to standard output, one JSON
text on each line. An interrupt from the terminal stops the update. Mathlib is imported for
`Std.Async`, with which signals and pauses are waited for.
-/

namespace Rollout.Simulation

open Rehearsal Std.Async

def line (r : Log.Record) : String :=
  (Json.obj [("level", .str r.level.name), ("target", .str r.target),
    ("fields", .obj (("message", .str r.message) :: r.fields))]).text

def write (records : List Log.Record) : IO Unit := do
  records.forM fun r => IO.println (line r)
  (← IO.getStdout).flush

/-- Waits for a signal, but no longer than so many milliseconds. Whether it came. -/
def comesWithin (signal : Signal.Waiter) (time : Nat) : IO Bool :=
  Async.block do
    let pause ← Selector.sleep (.ofNat time)
    Selectable.one
      #[.case signal.selector fun _ => return true, .case pause fun _ => return false]

/-- Plays an update to its end, and waits until each thing it does is due. An interrupt while it
waits tells the update to stop. -/
partial def follow (s : Setting) (filter : Log.Filter) (interrupt : Signal.Waiter) (p : Play) :
    IO Play := do
  write ((shownNotes s filter p).map Prod.snd)
  let p := { p with journal := #[] }
  match p.next s.setup s.options.pollInterval with
  | .over => return p
  | .now q => follow s filter interrupt q
  | .later time =>
    if ← comesWithin interrupt (time - p.now) then
      write (shownRemark filter .interrupted)
      follow s filter interrupt (p.act s.setup.plan [.stop])
    else
      follow s filter interrupt { p with now := time }

/-- Writes what is left of a run, and gives the code to exit with. -/
def leave (outcome : Outcome) : IO UInt32 := do
  write outcome.records
  IO.eprint outcome.complaints
  return outcome.exitCode.toUInt32

def serve (lookup : String → Option String) (interrupt : Signal.Waiter) : IO UInt32 := do
  match prepare lookup with
  | .error outcome => leave outcome
  | .ok (setting, filter, complaints) =>
    IO.eprint complaints
    write (opening setting filter)
    let p ← follow setting filter interrupt (setting.start [])
    match closing? filter p with
    | some (closing, fault) => leave (.ofEnd fault closing "")
    | none => return 1

def names : List String :=
  [sizeKey, sourceImageKey, targetImageKey, replacementHealthKey, filterKey, logLevelKey,
    Options.pollIntervalKey, Options.selfSlotKey, Options.policyKey]

end Rollout.Simulation

def main : IO UInt32 := do
  let found ← Rollout.Simulation.names.mapM fun name => return (name, ← IO.getEnv name)
  let interrupt ← Std.Async.Signal.Waiter.mk .sigint true
  let code ← Rollout.Simulation.serve (fun name => (found.lookup name).join) interrupt
  interrupt.stop
  return code
