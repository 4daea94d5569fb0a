import Rollout.Pattern.Basic

/-!
# Searching for patterns

A pattern is found at the leftmost place at which the text reads as it says, in the reading that it
prefers. `Pattern.endsText` asks whether what is found there is the end of the text.

The search goes through the text once and keeps all readings that are possible so far, the preferred
ones first, each as a place in a graph. Readings that come to the same place of the graph at the
same place of the text go on alike, and only the first of them is kept. The steps of the search are
the bytes of the text, so that an empty reading may stand inside a character.
-/

namespace Rollout.Pattern

inductive Node where
  | take (set : Text.RangeSet) (next : Nat)
  | look (look : Look) (next : Nat)
  /-- Two ways to go on, the preferred one first. -/
  | fork (first second : Nat)
  /-- All of the pattern was read. -/
  | found
  deriving DecidableEq, Repr

/-- The two ways to go on after a repetition. -/
def Node.forkOf (greedy : Bool) (again next : Nat) : Node :=
  if greedy then .fork again next else .fork next again

/-- Adds the places of a pattern to a graph, in front of a place that follows it, and gives the
first of them. What may take no character gets a place of its own for the question whether to read
it at all, besides the one for the question whether to read it again. -/
def addTo (nodes : Array Node) (next : Nat) : Pattern → Nat × Array Node
  | empty => (next, nodes)
  | one s _ => (nodes.size, nodes.push (.take s next))
  | look l => (nodes.size, nodes.push (.look l next))
  | seq a b =>
    let (middle, nodes) := addTo nodes next b
    addTo nodes middle a
  | alt a b =>
    let (first, nodes) := addTo nodes next a
    let (second, nodes) := addTo nodes next b
    (nodes.size, nodes.push (.fork first second))
  | group _ p => addTo nodes next p
  | repeated p .atMostOnce greedy =>
    let (entry, nodes) := addTo nodes next p
    (nodes.size, nodes.push (.forkOf greedy entry next))
  | repeated p times greedy =>
    let again := nodes.size
    let (entry, nodes) := addTo (nodes.push .found) again p
    let nodes := nodes.setIfInBounds again (.forkOf greedy entry next)
    if times = .atLeastOnce then (entry, nodes)
    else if p.takesSome then (again, nodes)
    else (nodes.size, nodes.push (.forkOf greedy entry next))

structure Graph where
  nodes : Array Node
  start : Nat

/-- The graph of a pattern. Its first place is the one at which all was read. -/
def graph (p : Pattern) : Graph :=
  let (start, nodes) := addTo #[.found] 0 p
  ⟨nodes, start⟩

/-- A byte of a text: the first one of a character, with the character, or a later one. -/
abbrev Byte := Option Char

def bytesOf (text : List Char) : List Byte :=
  text.flatMap fun c => some c :: List.replicate (c.utf8Size - 1) none

structure Surroundings where
  before : Option Byte
  after : Option Byte

namespace Surroundings

def isChar (c : Char) (byte : Option Byte) : Bool := byte == some (some c)

/-- Whether there is a letter, a digit or a low line of the ASCII range. -/
def isWord (byte : Option Byte) : Bool :=
  byte.any fun c => c.any fun c => c.isAlphanum || c == '_'

/-- Whether a place is as a pattern asks. The letters of all scripts are not known. -/
def satisfies (s : Surroundings) : Look → Bool
  | .textStart => s.before.isNone
  | .textEnd => s.after.isNone
  | .lineStart => s.before.isNone || isChar '\n' s.before
  | .lineEnd => s.after.isNone || isChar '\n' s.after
  | .crlfLineStart =>
    s.before.isNone || isChar '\n' s.before || (isChar '\r' s.before && !isChar '\n' s.after)
  | .crlfLineEnd =>
    s.after.isNone || isChar '\r' s.after || (isChar '\n' s.after && !isChar '\r' s.before)
  | .word .boundary _ => isWord s.before != isWord s.after
  | .word .noBoundary _ => isWord s.before == isWord s.after
  | .word .start _ => !isWord s.before && isWord s.after
  | .word .stop _ => isWord s.before && !isWord s.after

end Surroundings

structure Reading where
  node : Nat
  /-- How many bytes of a character are left to pass over. -/
  left : Nat := 0
  deriving DecidableEq, Repr

namespace Graph

/-- Readings at a place of the text, and the places of the graph visited there. -/
structure Present where
  /-- For each place of the graph whether it was visited. -/
  visited : Array Bool
  /-- The readings, the preferred ones last. -/
  readings : List Reading := []

/-- Visits the places that are reached from a place without reading on. As many steps as there are
places are enough. -/
def visit (g : Graph) (s : Surroundings) : Nat → Nat → Present → Present
  | 0, _, present => present
  | steps + 1, node, present =>
    if present.visited.getD node true then present
    else
      let present := { present with visited := present.visited.setIfInBounds node true }
      match g.nodes[node]? with
      | some (.fork first second) => g.visit s steps second (g.visit s steps first present)
      | some (.look place next) =>
        if s.satisfies place then g.visit s steps next present else present
      | _ => { present with readings := ⟨node, 0⟩ :: present.readings }

/-- One more reading at a place of the text, followed as far as it goes without reading on. -/
def arrive (g : Graph) (s : Surroundings) (present : Present) (r : Reading) : Present :=
  if r.left = 0 then g.visit s (g.nodes.size + 1) r.node present
  else if present.readings.contains r then present
  else { present with readings := r :: present.readings }

def isFound (g : Graph) (r : Reading) : Bool := r.left == 0 && g.nodes[r.node]? == some .found

def advance? (g : Graph) (byte : Byte) (r : Reading) : Option Reading :=
  if r.left ≠ 0 then some { r with left := r.left - 1 }
  else
    match g.nodes[r.node]?, byte with
    | some (.take set next), some c =>
      if set.contains c then some ⟨next, c.utf8Size - 1⟩ else none
    | _, _ => none

/-- The readings at a place of the text, where a new one begins if none was found yet. -/
def present (g : Graph) (s : Surroundings) (readings : List Reading) (seeking : Bool) :
    List Reading :=
  let arriving := if seeking then readings ++ [{ node := g.start }] else readings
  (arriving.foldl (g.arrive s) ⟨Array.replicate g.nodes.size false, []⟩).readings.reverse

/-- Whether what is found is the end of the text, of which `before` is the last byte read. Where
all of the pattern was read, readings that are less preferred end, and no new one is begun. -/
def search (g : Graph) (before : Option Byte) (readings : List Reading) (seeking : Bool) :
    List Byte → Bool
  | [] => (g.present ⟨before, none⟩ readings seeking).any g.isFound
  | byte :: rest =>
    let present := g.present ⟨before, some byte⟩ readings seeking
    let kept := present.takeWhile fun r => !g.isFound r
    g.search (some byte) (kept.filterMap (g.advance? byte)) (seeking && !present.any g.isFound) rest

end Graph

/-- Whether what is found of a pattern is the end of a text. -/
def endsText (p : Pattern) (text : List Char) : Bool :=
  p.graph.search none [] true (bytesOf text)

end Rollout.Pattern
