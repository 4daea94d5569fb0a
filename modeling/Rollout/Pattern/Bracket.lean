import Rollout.Pattern.Mode

/-!
# Sets between brackets

A set of characters is written between brackets: characters, ranges, kinds with a name, and other
sets in brackets, with a circumflex in front for the characters outside. Sets are put together by
doubled marks: `&&` for what is in both, `--` for what is in the first alone, `~~` for what is in
just one.
-/

namespace Rollout.Pattern

/-- How deep a part of a pattern is nested, together with the part. -/
structure Nested (α : Type) where
  value : α
  depth : Nat

def depthOfRow : List Nat → Nat
  | [] => 0
  | [depth] => depth
  | depths => depths.foldl max 0 + 1

inductive SetOperator where
  | both
  | firstAlone
  | justOne
  deriving DecidableEq, Repr

namespace SetOperator

/-- The operator of a mark that stands twice. -/
def ofMark? : Char → Option SetOperator
  | '&' => some .both
  | '-' => some .firstAlone
  | '~' => some .justOne
  | _ => none

def apply : SetOperator → Text.RangeSet → Text.RangeSet → Text.RangeSet
  | both => .inter
  | firstAlone => .diff
  | justOne => .symmDiff

end SetOperator

structure Bracket where
  /-- Whether the characters outside are meant. -/
  outside : Bool
  /-- Whether nothing was read but minus signs, so that another one stands for itself. -/
  opening : Bool := true
  /-- What is left of the last operator. -/
  left : Option (SetOperator × Nested Text.RangeSet) := none
  /-- The items since then, the last one first. -/
  items : List (Nested Text.RangeSet) := []

namespace Bracket

def add (b : Bracket) (set : Text.RangeSet) (depth : Nat) : Bracket :=
  { b with items := ⟨set, depth⟩ :: b.items }

def total (b : Bracket) : Nested Text.RangeSet :=
  let set := (b.items.map Nested.value).foldl .union .empty
  let depth := depthOfRow (b.items.map Nested.depth)
  match b.left with
  | none => ⟨set, depth⟩
  | some (operator, left) => ⟨operator.apply left.value set, max left.depth depth + 1⟩

def addRange? (m : Mode) (b : Bracket) (first last : Char) : Option Bracket :=
  (m.rangeSet? first last).map fun set => b.add set 0

def addAtom? (m : Mode) (b : Bracket) : Atom → Option Bracket
  | .char c _ => b.addRange? m c c
  | .set set => some (b.add set 0)
  | .look _ => none

def operate (b : Bracket) (operator : SetOperator) : Bracket :=
  { b with left := some (operator, b.total), items := [] }

def close? (m : Mode) (b : Bracket) : Option (Nested Text.RangeSet) :=
  let total := b.total
  let set := if b.outside then m.complement? total.value else some total.value
  set.map fun set => ⟨set, total.depth + 1⟩

end Bracket

def readItem (m : Mode) : List Char → Option (Atom × List Char)
  | [] => none
  | '\\' :: rest => readEscape m rest
  | c :: rest => some (.char c false, rest)

/-- The first character behind blanks and behind the number sign of one remark. -/
def peekBehindBlanks (m : Mode) (cs : List Char) : Option Char :=
  if m.skipsBlanks then
    match cs.dropWhile Text.isBlank with
    | '#' :: rest => (rest.dropWhile Text.isBlank).head?
    | rest => rest.head?
  else cs.head?

/-- Reads a character or a range between brackets. A minus sign makes a range unless the bracket
ends behind it or another minus sign follows. -/
def readRange (m : Mode) (b : Bracket) (cs : List Char) : Option (Bracket × List Char) := do
  let (first, rest) ← readItem m cs
  let single := (b.addAtom? m first).map fun b => (b, m.skip rest)
  match m.skip rest with
  | '-' :: rest =>
    let next := peekBehindBlanks m rest
    if next = some ']' ∨ next = some '-' then single
    else
      let (last, rest) ← readItem m (m.skip rest)
      match first, last with
      | .char first _, .char last _ => (b.addRange? m first last).map fun b => (b, rest)
      | _, _ => none
  | _ => single

/-- Reads the name of a kind of characters, which stands between colons in a bracket of its own,
with a circumflex in front for the characters of other kinds. -/
def readNamed? (m : Mode) : List Char → Option (Option Text.RangeSet × List Char)
  | ':' :: rest =>
    let outside := rest.head? == some '^'
    let rest := if outside then rest.drop 1 else rest
    match rest.dropWhile (· != ':') with
    | ':' :: ']' :: after =>
      (namedRanges? (String.ofList (rest.takeWhile (· != ':')))).map fun ranges =>
        let set := setOf ranges
        let known :=
          if m.allScripts then if m.ignoresCase then none else some set
          else some (if m.ignoresCase then set.anyCase else set)
        (known.bind fun set => if outside then m.complement? set else some set, after)
    | _ => none
  | _ => none

inductive BracketStep where
  /-- The brackets that are still open, the innermost one first. -/
  | open (inner : Bracket) (outer : List Bracket) (rest : List Char)
  | closed (set : Nested Text.RangeSet) (rest : List Char)

def openBracket (m : Mode) (outer : List Bracket) (cs : List Char) : BracketStep :=
  match m.skip cs with
  | '^' :: rest => .open { outside := true } outer rest
  | rest => .open { outside := false } outer rest

def stepBracket (m : Mode) (b : Bracket) (outer : List Bracket) (cs : List Char) :
    Option BracketStep :=
  let going := { b with opening := false }
  match m.skip cs with
  | [] => none
  | ']' :: rest =>
    if b.opening && b.items.isEmpty then
      (going.addRange? m ']' ']').map fun b => .open b outer rest
    else
      (b.close? m).map fun set =>
        match outer with
        | [] => .closed set rest
        | b :: outer => .open (b.add set.value set.depth) outer rest
  | c :: rest =>
    if c = '-' && b.opening then (b.addRange? m '-' '-').map fun b => .open b outer rest
    else if c = '[' then
      match readNamed? m rest with
      | some (set, rest) => set.map fun set => .open (going.add set 0) outer rest
      | none => some (openBracket m (going :: outer) rest)
    else
      match if rest.head? = some c then SetOperator.ofMark? c else none with
      | some operator => some (.open (going.operate operator) outer (rest.drop 1))
      | none => (readRange m going (c :: rest)).map fun (b, rest) => .open b outer rest

/-- Reads a set between brackets in so many steps at most. -/
def readBracketIn (m : Mode) : Nat → BracketStep → Option (Nested Text.RangeSet × List Char)
  | _, .closed set rest => some (set, rest)
  | 0, .open .. => none
  | steps + 1, .open b outer rest => (stepBracket m b outer rest).bind (readBracketIn m steps)

/-- Reads a set between brackets, behind the opening one. Each step takes at least one character,
so there are no more steps than characters. -/
def readBracket (m : Mode) (cs : List Char) : Option (Nested Text.RangeSet × List Char) :=
  readBracketIn m cs.length (openBracket m [] cs)

end Rollout.Pattern
