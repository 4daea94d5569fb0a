import Rollout.Text.RangeSet

/-!
# Patterns

A pattern says how a text may read: characters of given sets, places with given surroundings,
parts one after the other, alternatives, and repetitions. Where a text can be read in several ways
the order of the alternatives and the greed of the repetitions say which one is preferred.

Parts are put together by `Pattern.ofSet`, `Pattern.concat`, `Pattern.inRow` and
`Pattern.alternatives`, which bring patterns into the form in which they are searched for. In it
alternatives that begin with the same parts share them, and what is preferred in the shared parts
goes before the order of the alternatives. So it matters which parts are the same: sets for bytes
are not the same as sets of characters unless they have fewer than two members, and what takes no
characters stands in a row at most once.
-/

namespace Rollout

/-- A place in a text that is told by the words beside it. -/
inductive WordEdge where
  | boundary
  | noBoundary
  | start
  | stop
  deriving DecidableEq, Repr

/-- A place in a text that is told by what surrounds it. -/
inductive Look where
  | textStart
  | textEnd
  | lineStart
  | lineEnd
  /-- The start of a line, where lines may also end with a carriage return. -/
  | crlfLineStart
  | crlfLineEnd
  /-- The edge of a word, by the letters of all scripts or of the ASCII range alone. -/
  | word (edge : WordEdge) (allScripts : Bool)
  deriving DecidableEq, Repr

inductive Times where
  | atMostOnce
  | anyTimes
  | atLeastOnce
  deriving DecidableEq, Repr

inductive Pattern where
  | empty
  /-- One character of a set; `ofBytes` if the set was written for bytes. -/
  | one (set : Text.RangeSet) (ofBytes : Bool)
  | look (look : Look)
  | seq (first second : Pattern)
  /-- One of two patterns, the first one if both will do. -/
  | alt (first second : Pattern)
  /-- A pattern in a row; `greedy` prefers many to few. -/
  | repeated (part : Pattern) (times : Times) (greedy : Bool)
  /-- A part with a number of its own. -/
  | group (number : Nat) (part : Pattern)
  deriving DecidableEq, Repr

namespace Pattern

def size : Pattern → Nat
  | empty => 1
  | one .. => 1
  | look _ => 1
  | seq a b => a.size + b.size + 1
  | alt a b => a.size + b.size + 1
  | repeated p _ _ => p.size + 1
  | group _ p => p.size + 1

/-- One character of a set. For fewer than two members it does not matter how the set was
written. -/
def ofSet (set : Text.RangeSet) (ofBytes : Bool) : Pattern :=
  if set.isEmpty then one set true
  else if set.isSingle then one set false
  else one set ofBytes

def parts : Pattern → List Pattern
  | empty => []
  | seq a b => a.parts ++ b.parts
  | p => [p]

def join : List Pattern → Pattern
  | [] => empty
  | [p] => p
  | p :: rest => seq p (join rest)

/-- Patterns one after the other, without parts that are empty. -/
def concat (ps : List Pattern) : Pattern := join (ps.flatMap parts)

/-- The alternatives of a pattern, the preferred ones first. -/
def branches : Pattern → List Pattern
  | alt a b => a.branches ++ b.branches
  | p => [p]

def oneOf : List Pattern → Pattern
  | [] => ofSet .empty false
  | [p] => p
  | p :: rest => alt p (oneOf rest)

def set? : Pattern → Option Text.RangeSet
  | one s _ => some s
  | _ => none

/-- A set of characters for all of several patterns, if they are all characters or all other
sets. -/
def commonSet? (ps : List Pattern) : Option Text.RangeSet :=
  (ps.mapM set?).bind fun sets =>
    if sets.all (·.isSingle) || !sets.any (·.isSingle) then some (sets.foldl .union .empty)
    else none

/-- Whether a pattern stands for one character and no other. -/
def isChar (p : Pattern) : Bool := p.set?.any (·.isSingle)

/-- The parts of a pattern, in which characters that follow each other are kept together. -/
def words (p : Pattern) : List (List Pattern) := p.parts.splitBy fun p q => p.isChar && q.isChar

def commonStart (ps qs : List (List Pattern)) : List (List Pattern) :=
  ((ps.zip qs).takeWhile fun (p, q) => p = q).map Prod.fst

def sharedStart : List (List (List Pattern)) → List (List Pattern)
  | [] => []
  | ps :: rest => rest.foldl commonStart ps

/-- Brings alternatives together, and does so again with what is left of them behind the parts
that they share. As many rounds as the alternatives have constructors are enough, since each takes
one from every alternative. -/
def bringTogether : Nat → List Pattern → Pattern
  | 0, ps => oneOf ps
  | rounds + 1, ps =>
    let all := ps.flatMap branches
    match commonSet? all with
    | some set => ofSet set false
    | none =>
      let shared := sharedStart (all.map words)
      if shared.isEmpty || all.length < 2 || all.any (·.words.length < 2) then oneOf all
      else
        let left := all.map fun p => concat (p.words.drop shared.length).flatten
        concat (shared.flatten ++ [bringTogether rounds left])

def alternatives (ps : List Pattern) : Pattern :=
  bringTogether (ps.foldl (fun size p => size + p.size) 0) ps

def takesNothing : Pattern → Bool
  | empty => true
  | one .. => false
  | look _ => true
  | seq a b => a.takesNothing && b.takesNothing
  | alt a b => a.takesNothing && b.takesNothing
  | repeated p _ _ => p.takesNothing
  | group _ p => p.takesNothing

/-- A pattern in a row. What takes no characters stands there at most once. -/
def inRow (p : Pattern) (times : Times) (greedy : Bool) : Pattern :=
  if p.takesNothing then
    if times = .atLeastOnce then p else repeated p .atMostOnce greedy
  else repeated p times greedy

/-- The fewest characters that a pattern takes. Nothing is said of one in which there is a set
without a member. -/
def fewest? : Pattern → Option Nat
  | empty => some 0
  | one s _ => if s.isEmpty then none else some 1
  | look _ => some 0
  | seq a b => a.fewest?.bind fun m => b.fewest?.map (m + ·)
  | alt a b => a.fewest?.bind fun m => b.fewest?.map (min m ·)
  | repeated p times _ => p.fewest?.map fun m => if times = .atLeastOnce then m else 0
  | group _ p => p.fewest?

/-- Whether it is known that a pattern takes a character. -/
def takesSome (p : Pattern) : Bool := p.fewest?.any (0 < ·)

def asksForScripts : Pattern → Bool
  | look (.word _ allScripts) => allScripts
  | seq a b => a.asksForScripts || b.asksForScripts
  | alt a b => a.asksForScripts || b.asksForScripts
  | repeated p _ _ => p.asksForScripts
  | group _ p => p.asksForScripts
  | _ => false

end Pattern

end Rollout
