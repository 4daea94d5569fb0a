import Rollout.Json.Basic

/-!
# Log records

A record is what a program writes to its log at one point: how much it matters, which part of
the program it comes from, a message, and named values. Some records are written within a span,
which is a stretch of the program's work with a name and named values of its own.
-/

namespace Rollout.Log

inductive Level where
  | error
  | warn
  | info
  | debug
  | trace
  deriving DecidableEq, Repr

namespace Level

def name : Level → String
  | .error => "ERROR"
  | .warn => "WARN"
  | .info => "INFO"
  | .debug => "DEBUG"
  | .trace => "TRACE"

/-- How much is logged where a level is the limit: one for errors alone, five for everything. -/
def verbosity : Level → Nat
  | .error => 1
  | .warn => 2
  | .info => 3
  | .debug => 4
  | .trace => 5

end Level

structure Record where
  level : Level
  /-- The part of the program that the record comes from. -/
  target : String
  message : String
  fields : List (String × Json)

/-- The names of the values of a record, of which the message is one. -/
def Record.names (r : Record) : List String := "message" :: r.fields.map Prod.fst

/-- A stretch of the work of a program. -/
structure Span where
  name : String
  /-- The part of the program that does the work. -/
  target : String
  level : Level
  /-- What the work is done with, as text. -/
  values : List (String × String)
  deriving DecidableEq, Repr

end Rollout.Log
