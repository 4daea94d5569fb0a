/-!
# Sets of characters by ranges

A set of characters as a list of ranges in ascending order. `RangeSet.ofRanges` puts ranges in
order and joins those that overlap and those whose code points follow each other.

The code points from U+D800 to U+DFFF stand for no character. A range may reach across this gap, but
two ranges of which one ends before it and the other begins behind it are not joined, although no
character is between them. So a set may be written in two ways, which are not equal.
-/

namespace Rollout.Text

def lastCodePoint : Nat := 0x10ffff

def nextCodePoint (n : Nat) : Nat := if n = 0xd7ff then 0xe000 else n + 1

def previousCodePoint (n : Nat) : Nat := if n = 0xe000 then 0xd7ff else n - 1

structure CharRange where
  first : Nat
  last : Nat
  deriving DecidableEq, Repr

namespace CharRange

def contains (r : CharRange) (c : Char) : Bool := r.first ≤ c.toNat && c.toNat ≤ r.last

/-- The characters between two code points, whichever of them comes first. -/
def between (a b : Nat) : CharRange := ⟨min a b, max a b⟩

/-- Whether two ranges overlap or the code points of one follow those of the other. -/
def touches (r s : CharRange) : Bool := max r.first s.first ≤ min r.last s.last + 1

def join (r s : CharRange) : CharRange := ⟨min r.first s.first, max r.last s.last⟩

def inter? (r s : CharRange) : Option CharRange :=
  let both : CharRange := ⟨max r.first s.first, min r.last s.last⟩
  if both.first ≤ both.last then some both else none

def diff (r s : CharRange) : List CharRange :=
  if (r.inter? s).isNone then [r]
  else
    (if r.first < s.first then [⟨r.first, previousCodePoint s.first⟩] else []) ++
      (if s.last < r.last then [⟨nextCodePoint s.last, r.last⟩] else [])

/-- Whether one range is written before another. -/
def precedes (r s : CharRange) : Bool :=
  r.first < s.first || (r.first == s.first && decide (r.last ≤ s.last))

end CharRange

structure RangeSet where
  ranges : List CharRange
  deriving DecidableEq, Repr

namespace RangeSet

def contains (s : RangeSet) (c : Char) : Bool := s.ranges.any (·.contains c)

def empty : RangeSet := ⟨[]⟩

def range (first last : Char) : RangeSet := ⟨[⟨first.toNat, last.toNat⟩]⟩

def single (c : Char) : RangeSet := range c c

def isEmpty (s : RangeSet) : Bool := s.ranges.isEmpty

def isSingle (s : RangeSet) : Bool :=
  match s.ranges with
  | [r] => r.first == r.last
  | _ => false

def joinTouching : CharRange → List CharRange → List CharRange
  | r, [] => [r]
  | r, s :: rest =>
    if r.touches s then joinTouching (r.join s) rest else r :: joinTouching s rest

def ofRanges (ranges : List CharRange) : RangeSet :=
  match ranges.mergeSort CharRange.precedes with
  | [] => empty
  | r :: rest => ⟨joinTouching r rest⟩

def union (s t : RangeSet) : RangeSet := ofRanges (s.ranges ++ t.ranges)

def inter (s t : RangeSet) : RangeSet :=
  ⟨s.ranges.flatMap fun r => t.ranges.filterMap r.inter?⟩

def diff (s t : RangeSet) : RangeSet :=
  ⟨t.ranges.foldl (fun left r => left.flatMap (·.diff r)) s.ranges⟩

def symmDiff (s t : RangeSet) : RangeSet := (s.union t).diff (s.inter t)

/-- The ranges behind a range that are left free by those that follow. Two that are not joined at
the gap leave the characters beside it. -/
def freeBehind : CharRange → List CharRange → List CharRange
  | r, [] => if r.last < lastCodePoint then [⟨nextCodePoint r.last, lastCodePoint⟩] else []
  | r, s :: rest =>
    .between (nextCodePoint r.last) (previousCodePoint s.first) :: freeBehind s rest

def complement (s : RangeSet) : RangeSet :=
  match s.ranges with
  | [] => ⟨[⟨0, lastCodePoint⟩]⟩
  | r :: rest =>
    ⟨(if 0 < r.first then [⟨0, previousCodePoint r.first⟩] else []) ++ freeBehind r rest⟩

/-- The distance between the two cases of a letter of the ASCII range. -/
def caseDistance : Nat := 'a'.toNat - 'A'.toNat

/-- A set together with the other case of each of its letters of the ASCII range. -/
def anyCase (s : RangeSet) : RangeSet :=
  let upper := (s.inter (range 'A' 'Z')).ranges
  let lower := (s.inter (range 'a' 'z')).ranges
  ofRanges (s.ranges
    ++ upper.map (fun r => ⟨r.first + caseDistance, r.last + caseDistance⟩)
    ++ lower.map (fun r => ⟨r.first - caseDistance, r.last - caseDistance⟩))

end RangeSet

end Rollout.Text
