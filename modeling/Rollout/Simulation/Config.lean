import Rollout.Log.Filter
import Rollout.Options
import Rollout.Rehearsal.Session

/-!
# Configuration of the simulator

The simulator updates a group in memory from one image to another. How large the group is, which
images it has, and how healthy replacements are, is looked up by name, and so are the options of
the controller and the filter of the log.
-/

namespace Rollout.Simulation

open Update Rehearsal

structure Config where
  /-- The number of instances of the group. -/
  size : Nat
  sourceImage : String
  targetImage : String
  /-- The health of replacements. -/
  replacementHealth : Health
  /-- The filter of the log, where no other is given. -/
  logLevel : String
  deriving DecidableEq, Repr

inductive Fault where
  | size (text : String) (cause : Text.CountFault)
  | replacementHealth (text : String)
  | options (fault : Options.Fault)
  | update (fault : Update.Fault)
  deriving DecidableEq, Repr

def sizeKey : String := "FLEET_SIM_GROUP_SIZE"

def sourceImageKey : String := "FLEET_SIM_FROM_IMAGE"

def targetImageKey : String := "FLEET_SIM_TO_IMAGE"

def replacementHealthKey : String := "FLEET_SIM_REPLACEMENT_HEALTH"

/-- The name under which a filter of the log is looked up first. -/
def filterKey : String := "RUST_LOG"

/-- The name under which a filter of the log is looked up where the first one is no filter. -/
def logLevelKey : String := "FLEET_LOG_LEVEL"

namespace Fault

def message : Fault → String
  | .size text _ => "invalid " ++ sizeKey ++ ": " ++ Text.quoted text
  | .replacementHealth text => "invalid " ++ replacementHealthKey ++ ": " ++ Text.quoted text
  | .options fault => fault.message
  | .update fault => fault.message

/-- What a fault comes from, the nearest first. -/
def causes : Fault → List String
  | .size _ cause => [cause.message]
  | .replacementHealth _ => []
  | .options fault => fault.causes
  | .update fault => fault.causes

/-- A text with every line but the first indented. -/
def hang (width : Nat) (text : String) : String :=
  String.ofList (text.toList.flatMap fun c =>
    if c = '\n' then '\n' :: List.replicate width ' ' else [c])

/-- The causes of a fault, one under the other, with numbers if there are several. -/
def causeLines : List String → List String
  | [] => []
  | [cause] => ["    " ++ hang 4 cause]
  | causes => (causes.zip (List.range causes.length)).map fun (cause, n) =>
    let number := Text.decimal n
    String.ofList (List.replicate (5 - number.length) ' ' ++ number) ++ ": " ++ hang 7 cause

def report (f : Fault) : String :=
  let lines := causeLines f.causes
  "Error: " ++ f.message
    ++ (if lines.isEmpty then "" else "\n\nCaused by:\n" ++ "\n".intercalate lines) ++ "\n"

end Fault

/-- The health that a text gives, in any case of the letters and with blanks around it. -/
def readHealth (text : String) : Except Fault Health :=
  match Health.ofName? (Text.lower (Text.trim text)) with
  | some health => .ok health
  | none => .error (.replacementHealth text)

def readSize (text : String) : Except Fault Nat :=
  match Text.readCount text with
  | .ok n => .ok n
  | .error cause => .error (.size text cause)

namespace Config

def load (lookup : String → Option String) : Except Fault Config := do
  let size ← (lookup sizeKey).elim (.ok 3) readSize
  let sourceImage := (lookup sourceImageKey).getD "app:v1"
  let targetImage := (lookup targetImageKey).getD "app:v2"
  let replacementHealth ← (lookup replacementHealthKey).elim (.ok .healthy) readHealth
  let logLevel := (lookup logLevelKey).getD "info"
  return { size, sourceImage, targetImage, replacementHealth, logLevel }

/-- The filter of the log, and what is written about the parts of it that are left out. A filter
that is given on its own counts only if all of it is valid. -/
def filter (c : Config) (lookup : String → Option String) : Log.Filter × List String :=
  match (lookup filterKey).bind Log.Filter.read? with
  | some filter => (filter, [])
  | none => Log.Filter.readLoosely c.logLevel

def spec (image : String) : Json := .obj [("image", .str image)]

def plan (c : Config) (o : Options) : Plan :=
  { description := c.sourceImage ++ " -> " ++ c.targetImage
    source := o.apply (.ofSpec (spec c.sourceImage) c.size)
    target := o.apply (.ofSpec (spec c.targetImage) c.size) }

def firstInstance (revision : Revision) (n : Nat) : Instance :=
  ((Instance.ofId ("inst-" ++ String.ofList (Text.paddedDecimal 3 n))).withSlot
    ("slot-" ++ String.ofList (Text.decimal n))).withRevision revision

def group (c : Config) (o : Options) : Group :=
  { members := (List.range c.size).map (firstInstance (c.plan o).source.revision)
    replacement := some (c.plan o).target.revision
    replacementHealth := c.replacementHealth }

end Config

end Rollout.Simulation
