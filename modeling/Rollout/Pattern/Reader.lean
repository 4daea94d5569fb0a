import Rollout.Pattern.Bracket
import Rollout.Text.Alphanumeric

/-!
# Reading patterns

The written form of patterns: characters and escapes, sets between brackets, groups in
parentheses, bars between alternatives, and the marks `?`, `*` and `+` behind what may be repeated.
A group may have a name, or switch parts of the mode on and off.
-/

namespace Rollout.Pattern

/-- Why a text is no pattern to search for. -/
inductive Fault where
  | unreadable
  /-- The edges of words in all scripts are not known. -/
  | scripts
  deriving DecidableEq, Repr

def Fault.message : Fault → String
  | .unreadable => "error building NFA"
  | .scripts =>
    "unsupported regex feature for DFAs: cannot build DFAs for regexes with Unicode word " ++
      "boundaries; switch to ASCII word boundaries, or heuristically enable Unicode word " ++
      "boundaries or use a different regex engine"

/-- A part of a pattern that was read; `isSwitch` if it is not a part but changes the mode. -/
structure Piece extends Nested Pattern where
  isSwitch : Bool := false

/-- What was read of a group: its finished alternatives and the pieces of the present one, the
last ones first. -/
structure Row where
  branches : List (Nested Pattern) := []
  pieces : List Piece := []

namespace Row

def branch (r : Row) : Nested Pattern :=
  ⟨concat (r.pieces.reverse.map (·.value)), depthOfRow (r.pieces.map (·.depth))⟩

def add (r : Row) (p : Piece) : Row := { r with pieces := p :: r.pieces }

def next (r : Row) : Row := { branches := r.branch :: r.branches }

def total (r : Row) : Nested Pattern :=
  let all := (r.branch :: r.branches).reverse
  match all with
  | [only] => only
  | _ => ⟨alternatives (all.map Nested.value), depthOfRow (all.map Nested.depth)⟩

end Row

/-- A group that is open around what is being read. -/
structure Enclosing where
  /-- The mode to go back to. -/
  mode : Mode
  row : Row
  /-- The number of the group, if it has one. -/
  number : Option Nat

/-- A pattern that is being read. -/
structure Draft where
  mode : Mode := {}
  row : Row := {}
  enclosing : List Enclosing := []
  /-- How many groups have a number. -/
  count : Nat := 0
  /-- The names of groups. -/
  names : List String := []

namespace Draft

def add (d : Draft) (pattern : Pattern) (depth : Nat) : Draft :=
  { d with row := d.row.add { value := pattern, depth } }

/-- A draft with one more character of a set, which is for bytes where only the ASCII range
counts. -/
def addSet (d : Draft) (set : Text.RangeSet) (depth : Nat) : Draft :=
  d.add (.ofSet set !d.mode.allScripts) depth

def addAtom? (d : Draft) : Atom → Option Draft
  | .char c byByte => (d.mode.charSet? c byByte).map fun set => d.addSet set 0
  | .look place => some (d.add (.look place) 0)
  | .set set => some (d.addSet set 0)

def openNumbered (d : Draft) : Draft :=
  { d with
    row := {}
    enclosing := ⟨d.mode, d.row, some d.count⟩ :: d.enclosing
    count := d.count + 1 }

def mayName (c : Char) : Bool :=
  Text.isAlphanumeric c || c == '_' || c == '.' || c == '[' || c == ']'

def mayBeginName (c : Char) : Bool := Text.isAlphabetic c || c == '_'

def openNamed? (d : Draft) (cs : List Char) : Option (Draft × List Char) :=
  let name := cs.takeWhile (· != '>')
  let text := String.ofList name
  match name, cs.dropWhile (· != '>') with
  | c :: others, _ :: rest =>
    if mayBeginName c && others.all mayName && !d.names.contains text then
      some ({ d.openNumbered with names := text :: d.names }, rest)
    else none
  | _, _ => none

/-- Reads letters that switch parts of the mode, and opens a group or goes on in the new mode. -/
def switch? (d : Draft) (cs : List Char) : Option (Draft × List Char) :=
  let isLetter (c : Char) : Bool := c != ':' && c != ')'
  let letters := cs.takeWhile isLetter
  (d.mode.switched? letters).bind fun mode =>
    match cs.dropWhile isLetter with
    | [] => none
    | ':' :: rest =>
      some ({ d with mode, row := {}, enclosing := ⟨d.mode, d.row, none⟩ :: d.enclosing }, rest)
    | _ :: rest =>
      if letters.isEmpty then none
      else
        let piece : Piece := { value := .empty, depth := 0, isSwitch := true }
        some ({ d with mode, row := d.row.add piece }, rest)

def openGroup? (d : Draft) (cs : List Char) : Option (Draft × List Char) :=
  match d.mode.skip cs with
  | '?' :: 'P' :: '<' :: rest => d.openNamed? rest
  | '?' :: '<' :: rest => d.openNamed? rest
  | '?' :: rest => d.switch? rest
  | rest => some (d.openNumbered, rest)

def closeGroup? (d : Draft) : Option Draft :=
  match d.enclosing with
  | [] => none
  | ⟨mode, row, number⟩ :: enclosing =>
    let total := d.row.total
    let pattern :=
      match number with
      | some n => .group n total.value
      | none => total.value
    some ({ d with mode, row, enclosing }.add pattern (total.depth + 1))

/-- Has the last piece repeated. Another question mark changes what is preferred. -/
def repeat? (d : Draft) (times : Times) (cs : List Char) : Option (Draft × List Char) :=
  match d.row.pieces with
  | [] => none
  | piece :: pieces =>
    if piece.isSwitch then none
    else
      let (plain, rest) :=
        match cs with
        | '?' :: rest => (false, rest)
        | rest => (true, rest)
      let row := { d.row with pieces }
      let greedy := plain != d.mode.prefersFew
      some ({ d with row }.add (.inRow piece.value times greedy) (piece.depth + 1), rest)

def step? (d : Draft) : List Char → Option (Draft × List Char)
  | [] => none
  | c :: rest =>
    match c with
    | '(' => d.openGroup? rest
    | ')' => d.closeGroup?.map fun d => (d, rest)
    | '|' => some ({ d with row := d.row.next }, rest)
    | '[' =>
      (readBracket d.mode rest).map fun (set, rest) => (d.addSet set.value set.depth, rest)
    | '?' => d.repeat? .atMostOnce rest
    | '*' => d.repeat? .anyTimes rest
    | '+' => d.repeat? .atLeastOnce rest
    | '\x7b' => none
    | '\\' =>
      (readEscape d.mode rest).bind fun (atom, rest) => (d.addAtom? atom).map fun d => (d, rest)
    | '.' => d.mode.pointSet?.map fun set => (d.addSet set 0, rest)
    | '^' => some (d.add (.look d.mode.startLook) 0, rest)
    | '$' => some (d.add (.look d.mode.endLook) 0, rest)
    | c => (d.addAtom? (.char c false)).map fun d => (d, rest)

def readIn (d : Draft) : Nat → List Char → Option Draft
  | steps, cs =>
    match steps, d.mode.skip cs with
    | _, [] => some d
    | 0, _ => none
    | steps + 1, cs => (d.step? cs).bind fun (d, rest) => d.readIn steps rest

end Draft

def depthLimit : Nat := 250

/-- Reads a pattern. Each step takes at least one character, so there are no more steps than
characters. -/
def read (text : String) : Except Fault Pattern :=
  match Draft.readIn {} text.toList.length text.toList with
  | none => .error .unreadable
  | some d =>
    let total := d.row.total
    if !d.enclosing.isEmpty || depthLimit < total.depth then .error .unreadable
    else if total.value.asksForScripts then .error .scripts
    else .ok total.value

end Rollout.Pattern
