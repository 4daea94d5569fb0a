import Rollout.Log.Directive

/-!
# Log filters

Which records a program writes is told by directives between commas. Of the directives about a
record, the one with the longest target decides; of two with the same target, one that asks for a
value of the record; of two about the same, the later one. A record that no directive is about is
not written, unless it is written within a span and a directive about that span lets it pass.
-/

namespace Rollout.Log

structure Filter where
  directives : List Directive
  deriving DecidableEq, Repr

namespace Filter

def parts (text : String) : List String :=
  ((text.splitToList (· == ',')).filter fun part => !part.isEmpty)

/-- Reads a filter all of whose directives must be valid. Without any, nothing is written. -/
def read? (text : String) : Option Filter :=
  ((parts text).mapM fun part => (Directive.read part).toOption).map Filter.mk

def complaint (part : String) (fault : DirectiveFault) : String :=
  "ignoring " ++ "`" ++ part ++ "`: " ++ fault.message ++ "\n"

/-- Reads a filter and leaves out what is no directive, with a complaint about each such part.
Without any directive, errors are written. -/
def readLoosely (text : String) : Filter × List String :=
  let read := (parts text).map fun part => (part, Directive.read part)
  let directives := read.filterMap fun (_, d) => d.toOption
  (⟨if directives.isEmpty then [Directive.errors] else directives⟩,
    read.filterMap fun
      | (part, .error fault) => some (complaint part fault)
      | (_, .ok _) => none)

/-- The directive that decides about a record wherever it is written. -/
def decisive? (f : Filter) (r : Record) : Option Directive :=
  (f.directives.filter fun d => d.covers r).foldl
    (fun best d =>
      match best with
      | none => some d
      | some b => if b.yieldsTo d then some d else some b)
    none

/-- Directives without those that a later one about the same replaces. -/
def standing : List Directive → List Directive
  | [] => []
  | d :: rest =>
    if rest.any fun other => other.subject = d.subject then standing rest
    else d :: standing rest

def limit (f : Filter) : Nat := (f.directives.map Directive.verbosity).foldl max 0

/-- Whether a span is looked at: so it is if a span of its level can matter at all, or if what the
values of spans are like is asked for. -/
def follows (f : Filter) (s : Span) : Bool :=
  s.level.verbosity ≤ f.limit || f.directives.any Directive.asksForValue

/-- The greatest verbosity of a record that is written because it is written within a span. -/
def verbosityWithin (f : Filter) (s : Span) : Nat :=
  if f.follows s then
    (((standing f.directives).filter fun d => d.coversWithin s).map Directive.verbosity).foldl max 0
  else 0

def shows (f : Filter) (spans : List Span) (r : Record) : Bool :=
  (spans.any fun s => r.level.verbosity ≤ f.verbosityWithin s)
    || (f.decisive? r).any fun d => r.level.verbosity ≤ d.verbosity

end Filter

end Rollout.Log
