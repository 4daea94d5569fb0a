import Rollout.Pattern.Basic
import Rollout.Text.Blank
import Rollout.Text.Digits

/-!
# How patterns are written

A letter, a mark or an escape stands for a set of characters or a place, depending on the mode in
which a pattern is read. In the ordinary mode characters of all scripts may be named one by one, but
neither their case nor their kind is known; in the other one only those of the ASCII range count,
and their case and kind are known.
-/

namespace Rollout.Pattern

structure Mode where
  ignoresCase : Bool := false
  /-- Whether the marks for the ends of the text stand for the ends of its lines. -/
  byLine : Bool := false
  /-- Whether the point stands for line ends too. -/
  pointsAtLineEnds : Bool := false
  /-- Whether repetitions without a mark of their own prefer few to many. -/
  prefersFew : Bool := false
  /-- Whether a carriage return ends a line. -/
  carriageReturns : Bool := false
  allScripts : Bool := true
  /-- Whether blanks and remarks between the parts of a pattern are left out. -/
  skipsBlanks : Bool := false
  deriving DecidableEq, Repr

/-- What a letter, a mark or an escape stands for. -/
inductive Atom where
  /-- A character; `byByte` if it is given by the two digits of a byte. -/
  | char (c : Char) (byByte : Bool)
  | look (look : Look)
  | set (set : Text.RangeSet)
  deriving DecidableEq, Repr

/-- What is left behind blanks and remarks, from inside a remark or not. A remark goes from a
number sign to the end of the line. -/
def skipBlanks (inRemark : Bool) : List Char → List Char
  | [] => []
  | c :: rest =>
    if inRemark then skipBlanks (c != '\n') rest
    else if Text.isBlank c then skipBlanks false rest
    else if c = '#' then skipBlanks true rest
    else c :: rest

namespace Mode

def skip (m : Mode) (cs : List Char) : List Char :=
  if m.skipsBlanks then skipBlanks false cs else cs

/-- The mode after a letter that switches part of it on or off. -/
def switch? (m : Mode) (on : Bool) : Char → Option Mode
  | 'i' => some { m with ignoresCase := on }
  | 'm' => some { m with byLine := on }
  | 's' => some { m with pointsAtLineEnds := on }
  | 'U' => some { m with prefersFew := on }
  | 'u' => some { m with allScripts := on }
  | 'R' => some { m with carriageReturns := on }
  | 'x' => some { m with skipsBlanks := on }
  | _ => none

def switchAll? (m : Mode) (on : Bool) : List Char → Option Mode
  | [] => some m
  | ['-'] => none
  | '-' :: rest => m.switchAll? false rest
  | c :: rest => (m.switch? on c).bind fun m => m.switchAll? on rest

/-- The mode after letters none of which stands twice. -/
def switched? (m : Mode) (letters : List Char) : Option Mode :=
  if letters.eraseDups.length = letters.length then m.switchAll? true letters else none

/-- Whether a character can be named by its byte. -/
def isSingleByte (c : Char) : Bool := c.toNat < 0x80

def charSet? (m : Mode) (c : Char) (byByte : Bool) : Option Text.RangeSet :=
  if m.allScripts then if m.ignoresCase then none else some (.single c)
  else if byByte && !isSingleByte c then none
  else some (if m.ignoresCase then (Text.RangeSet.single c).anyCase else .single c)

def rangeSet? (m : Mode) (first last : Char) : Option Text.RangeSet :=
  if last < first then none
  else if m.allScripts then if m.ignoresCase then none else some (.range first last)
  else if !isSingleByte last then none
  else
    let set := Text.RangeSet.range first last
    some (if m.ignoresCase then set.anyCase else set)

/-- The set outside of one. Among bytes there is none, since it would hold parts of characters. -/
def complement? (m : Mode) (s : Text.RangeSet) : Option Text.RangeSet :=
  if m.allScripts then some s.complement else none

def pointSet? (m : Mode) : Option Text.RangeSet :=
  if !m.allScripts then none
  else if m.pointsAtLineEnds then some Text.RangeSet.empty.complement
  else
    let lineFeed := Text.RangeSet.single '\n'
    let ends := if m.carriageReturns then lineFeed.union (.single '\r') else lineFeed
    some ends.complement

def startLook (m : Mode) : Look :=
  if !m.byLine then .textStart
  else if m.carriageReturns then .crlfLineStart
  else .lineStart

def endLook (m : Mode) : Look :=
  if !m.byLine then .textEnd
  else if m.carriageReturns then .crlfLineEnd
  else .lineEnd

end Mode

def setOf (ends : List (Char × Char)) : Text.RangeSet :=
  .ofRanges (ends.map fun (first, last) => ⟨first.toNat, last.toNat⟩)

def asciiSpaces : List (Char × Char) := [('\t', '\r'), (' ', ' ')]

def asciiWord : List (Char × Char) := [('0', '9'), ('A', 'Z'), ('_', '_'), ('a', 'z')]

def namedRanges? : String → Option (List (Char × Char))
  | "alnum" => some [('0', '9'), ('A', 'Z'), ('a', 'z')]
  | "alpha" => some [('A', 'Z'), ('a', 'z')]
  | "ascii" => some [('\x00', '\x7f')]
  | "blank" => some [('\t', '\t'), (' ', ' ')]
  | "cntrl" => some [('\x00', '\x1f'), ('\x7f', '\x7f')]
  | "digit" => some [('0', '9')]
  | "graph" => some [('!', '~')]
  | "lower" => some [('a', 'z')]
  | "print" => some [(' ', '~')]
  | "punct" => some [('!', '/'), (':', '@'), ('[', '\x60'), ('\x7b', '~')]
  | "space" => some asciiSpaces
  | "upper" => some [('A', 'Z')]
  | "word" => some asciiWord
  | "xdigit" => some [('0', '9'), ('A', 'F'), ('a', 'f')]
  | _ => none

def charOf? (n : Nat) : Option Char := if n.isValidChar then some (Char.ofNat n) else none

def readHex (m : Mode) : Nat → Nat → List Char → Option (Char × List Char)
  | 0, n, cs => (charOf? n).map fun c => (c, cs)
  | digits + 1, n, cs =>
    match m.skip cs with
    | [] => none
    | c :: rest => (Text.hexValue? c).bind fun d => readHex m digits (16 * n + d) rest

/-- The kind of characters that a letter behind a backslash stands for. It is known only within
the ASCII range. -/
def kindSet? (m : Mode) (ranges : List (Char × Char)) : Option Atom :=
  if m.allScripts then none else some (.set (setOf ranges))

def standsForItself (c : Char) : Bool :=
  Mode.isSingleByte c && !c.isAlphanum && c != '<' && c != '>'

def readEscape (m : Mode) : List Char → Option (Atom × List Char)
  | [] => none
  | c :: rest =>
    let char (c : Char) : Option (Atom × List Char) := some (.char c false, rest)
    let look (look : Look) : Option (Atom × List Char) := some (.look look, rest)
    let hex (digits : Nat) : Option (Atom × List Char) :=
      (readHex m digits 0 rest).map fun (c, rest) => (.char c (digits == 2), rest)
    let kind (ranges : List (Char × Char)) : Option (Atom × List Char) :=
      (kindSet? m ranges).map fun atom => (atom, rest)
    match c with
    | 'x' => hex 2
    | 'u' => hex 4
    | 'U' => hex 8
    | 'd' => kind [('0', '9')]
    | 's' => kind asciiSpaces
    | 'w' => kind asciiWord
    | 'a' => char '\x07'
    | 'f' => char '\x0c'
    | 't' => char '\t'
    | 'n' => char '\n'
    | 'r' => char '\r'
    | 'v' => char '\x0b'
    | 'A' => look .textStart
    | 'z' => look .textEnd
    | 'b' => look (.word .boundary m.allScripts)
    | 'B' => look (.word .noBoundary m.allScripts)
    | '<' => look (.word .start m.allScripts)
    | '>' => look (.word .stop m.allScripts)
    | c => if standsForItself c then char c else none

end Rollout.Pattern
