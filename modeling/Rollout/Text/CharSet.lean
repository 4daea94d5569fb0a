/-!
# Sets of characters

A set of characters as the ascending list of the code points at which membership changes. The
characters before the first of them are outside. The tables of kinds of characters are such sets.
-/

namespace Rollout.Text

/-- A set of characters, by the code points at which membership changes. -/
structure CharSet where
  boundaries : List Nat
  deriving DecidableEq, Repr

/-- Whether a character belongs to a set: so it does behind an odd number of changes. -/
def CharSet.contains (s : CharSet) (c : Char) : Bool :=
  (s.boundaries.takeWhile (· ≤ c.toNat)).length % 2 == 1

end Rollout.Text
