/-!
# Powers

Powers with whole exponents, negative ones included, as fractions, and the bounds of numbers of
64 bits.
-/

namespace Rollout

/-- A power of a base, as a numerator and a denominator one of which is 1. -/
def power (base : Nat) (exponent : Int) : Nat × Nat :=
  if 0 ≤ exponent then (Nat.pow base exponent.toNat, 1)
  else (1, Nat.pow base (-exponent).toNat)

def wordLimit : Nat := 0x10000000000000000

/-- The magnitude of the least number that fits into 64 bits with a sign. -/
def signedLimit : Nat := 0x8000000000000000

end Rollout
