import Rollout.Simulation.Config

/-!
# The simulator

One run of the simulator, from what it finds in its environment to what it writes and the code
with which it exits. If it is interrupted while it waits for the group, it tells the update to
stop and exits as soon as that has ended.
-/

namespace Rollout.Simulation

open Update Rehearsal

inductive Remark where
  | loaded (size : Nat) (options : Options)
  | interrupted
  | finished (destroyed : Nat)
  | stopped (destroyed : Nat)
  | failed (destroyed : Nat) (fault : Update.Fault)
  deriving DecidableEq, Repr

namespace Remark

def target : String := "rollout_sim"

/-- The controller's own slot as it is shown in the log. -/
def shownSlot : Option String → String
  | none => "None"
  | some slot => "Some(LogicalId(" ++ Text.quoted slot ++ "))"

def record : Remark → Log.Record
  | .loaded size options =>
    ⟨.info, target, "Configuration loaded",
      [("group_size", .ofNat size), ("poll_interval_ms", .ofNat options.pollInterval),
        ("self_id", .str (shownSlot options.selfSlot)), ("policy", .str options.policy.name)]⟩
  | .interrupted => ⟨.info, target, "Received shutdown signal", []⟩
  | .finished destroyed =>
    ⟨.info, target, "Update finished", [("destroyed", .ofNat destroyed)]⟩
  | .stopped destroyed =>
    ⟨.info, target, "Update stopped before completion", [("destroyed", .ofNat destroyed)]⟩
  | .failed destroyed fault =>
    ⟨.error, target, "Update failed",
      [("destroyed", .ofNat destroyed), ("error", .str fault.message)]⟩

end Remark

/-- What is left of a run of the simulator. -/
structure Outcome where
  exitCode : Nat
  records : List Log.Record := []
  /-- What was written besides the log. -/
  complaints : String := ""

def Outcome.ofFault (fault : Fault) (records : List Log.Record) (complaints : String) : Outcome :=
  { exitCode := 1, records, complaints := complaints ++ fault.report }

def Outcome.ofEnd : Option Fault → List Log.Record → String → Outcome
  | none, records, complaints => { exitCode := 0, records, complaints }
  | some fault, records, complaints => .ofFault fault records complaints

/-- A time in milliseconds as it is shown for a span: in seconds from one second on, without zeros
at the end of the fraction. -/
def shownInterval (time : Nat) : String :=
  if time < 1000 then String.ofList (Text.decimal time) ++ "ms"
  else
    let fraction := (Text.paddedDecimal 3 (time % 1000)).reverse.dropWhile (· == '0')
    String.ofList (Text.decimal (time / 1000)
      ++ (if fraction.isEmpty then [] else '.' :: fraction.reverse)) ++ "s"

structure Setting where
  config : Config
  options : Options

namespace Setting

def span (s : Setting) : Log.Span :=
  let plan := s.config.plan s.options
  { name := "run"
    target := Note.updateTarget
    level := .info
    values := [("poll_interval", shownInterval s.options.pollInterval),
      ("update", plan.description), ("target", plan.target.revision)] }

/-- The spans in which a note is written. Only the one on being told to stop is written by those
who tell it to the update. -/
def spansOf (s : Setting) : Note → List Log.Span
  | .stopRequested _ => []
  | _ => [s.span]

def setup (s : Setting) : Setup :=
  { plan := s.config.plan s.options, delay := fun _ => 0, hooks := [] }

def start (s : Setting) (agenda : List (Nat × Action)) : Play :=
  Play.start { backend := .group (s.config.group s.options) } (.calling .survey) agenda

/-- A time by which the update has ended, if it ends by itself at all: each wait takes one poll
unless it takes for ever, and there is one for every instance and one more. -/
def horizon (s : Setting) : Nat := (s.config.size + 2) * s.options.pollInterval

def rehearse (s : Setting) (agenda : List (Nat × Action)) : Play :=
  (s.start agenda).finish s.setup s.options.pollInterval s.horizon

end Setting

def destroyedIn (w : World) : Nat :=
  match w.backend with
  | .group g => g.destroyed.length
  | .script _ => 0

/-- The remark on the end of an update, and the fault with which the program ends. -/
def verdict (destroyed : Nat) : Ending → Option (Remark × Option Fault)
  | .done => some (.finished destroyed, none)
  | .failed .halted => some (.stopped destroyed, none)
  | .failed fault => some (.failed destroyed fault, some (.update fault))
  | .noPeriod => none

def notesOf (p : Play) : List (Nat × Note) :=
  p.journal.toList.filterMap fun
    | .note time note => some (time, note)
    | .call .. => none

def shownNotes (s : Setting) (filter : Log.Filter) (p : Play) : List (Nat × Log.Record) :=
  ((notesOf p).filter fun n => filter.shows (s.spansOf n.2) n.2.record).map fun n =>
    (n.1, n.2.record)

def shownRemark (filter : Log.Filter) (r : Remark) : List Log.Record :=
  if filter.shows [] r.record then [r.record] else []

/-- Whether a record says that the update waits for the group. -/
def isWaiting (r : Log.Record) : Bool :=
  "Waiting for group to quiesce".toList.isPrefixOf r.message.toList

/-- The records of an interrupted run: up to the first one that tells of waiting they stand as
they are; those after it are written by two threads, and are put into the order of their
messages. -/
def settleOrder (records : List Log.Record) : List Log.Record :=
  let before := records.takeWhile fun r => !isWaiting r
  match records.dropWhile fun r => !isWaiting r with
  | [] => before
  | first :: rest =>
    before ++ first :: (rest.filter fun r => !isWaiting r).mergeSort fun a b =>
      decide (a.message ≤ b.message)

def opening (s : Setting) (filter : Log.Filter) : List Log.Record :=
  shownRemark filter (.loaded s.config.size s.options)

/-- What the log ends with, and the fault with which the program ends. None while the update has
not ended. -/
def closing? (filter : Log.Filter) (p : Play) : Option (List Log.Record × Option Fault) :=
  match p.status with
  | .ended ending =>
    (verdict (destroyedIn p.world) ending).map fun (remark, fault) =>
      (shownRemark filter remark, fault)
  | _ => none

def conclude (s : Setting) (filter : Log.Filter) (complaints : String) (p : Play)
    (interrupted : Bool) : Option Outcome :=
  (closing? filter p).map fun (closing, fault) =>
    let records := opening s filter
      ++ (shownNotes s filter p).map Prod.snd
      ++ (if interrupted then shownRemark filter .interrupted else [])
      ++ closing
    .ofEnd fault (if interrupted then settleOrder records else records) complaints

/-- The time at which an update first writes that it waits for the group. -/
def firstWait? (s : Setting) (filter : Log.Filter) (p : Play) : Option Nat :=
  ((shownNotes s filter p).find? fun n => isWaiting n.2).map Prod.fst

/-- Simulates an update. With `interrupt`, the update is told to stop just after it has written
for the first time that it waits. None if it goes on for ever. -/
def simulate (s : Setting) (filter : Log.Filter) (complaints : String) (interrupt : Bool) :
    Option Outcome :=
  let undisturbed := s.rehearse []
  match if interrupt then firstWait? s filter undisturbed else none with
  | some time => conclude s filter complaints (s.rehearse [(time + 1, .stop)]) true
  | none => conclude s filter complaints undisturbed false

/-- What the simulator finds in its environment: a simulation, the filter of its log, and what
is written about the filter. Or the outcome, if the environment is at fault. -/
def prepare (lookup : String → Option String) : Except Outcome (Setting × Log.Filter × String) :=
  match Config.load lookup with
  | .error fault => .error (.ofFault fault [] "")
  | .ok config =>
    let (filter, complaints) := config.filter lookup
    let complaints := String.join complaints
    match Options.load lookup with
    | .error fault => .error (.ofFault (.options fault) [] complaints)
    | .ok options => .ok (⟨config, options⟩, filter, complaints)

/-- Runs the simulator. None if it goes on for ever. -/
def run (lookup : String → Option String) (interrupt : Bool) : Option Outcome :=
  match prepare lookup with
  | .error outcome => some outcome
  | .ok (setting, filter, complaints) => simulate setting filter complaints interrupt

end Rollout.Simulation
