import Rollout.Number.Power

/-!
# Binary floating point numbers

Finite numbers of the binary64 format as a sign, a significand and a power of two. Rounding
is exact integer arithmetic: a positive fraction goes to the nearest number of the format, and
one that lies half way goes to the neighbour with the even significand.
-/

namespace Rollout

/-- A finite binary64 number: `significand * 2 ^ exponent`, with a sign that zero keeps too.
A significand other than zero has 53 bits unless the exponent is the least one, `-1074`. -/
structure Binary64 where
  negative : Bool
  significand : Nat
  exponent : Int
  deriving DecidableEq, Repr

namespace Binary64

def leastNormal : Nat := 0x10000000000000

/-- The quotient of two numbers, rounded to the nearest whole number, a half to the even one. -/
def roundDiv (num den : Nat) : Nat :=
  let quotient := num / den
  let twice := 2 * (num % den)
  if den < twice ∨ (twice = den ∧ quotient % 2 = 1) then quotient + 1 else quotient

/-- The fraction `num / den` divided by `2 ^ exponent`. -/
def unscale (num den : Nat) (exponent : Int) : Nat × Nat :=
  (num * (power 2 exponent).2, den * (power 2 exponent).1)

def log2Ratio (num den : Nat) : Int :=
  let guess : Int := (num.log2 : Int) - (den.log2 : Int)
  let scaled := unscale num den guess
  if scaled.2 ≤ scaled.1 then guess else guess - 1

/-- The magnitude of the number nearest to a fraction, none where it is beyond the format. -/
def nearest? (num den : Nat) : Option (Nat × Int) :=
  if num = 0 then some (0, -1074)
  else
    let exponent := max (log2Ratio num den - 52) (-1074)
    let scaled := unscale num den exponent
    let rounded := roundDiv scaled.1 scaled.2
    let (significand, exponent) :=
      if rounded = 2 * leastNormal then (leastNormal, exponent + 1) else (rounded, exponent)
    if exponent ≤ 971 then some (significand, exponent) else none

def ofRatio? (negative : Bool) (num den : Nat) : Option Binary64 :=
  (nearest? num den).map fun (significand, exponent) => ⟨negative, significand, exponent⟩

def ratio (x : Binary64) : Nat × Nat :=
  (x.significand * (power 2 x.exponent).1, (power 2 x.exponent).2)

def mul? (x y : Binary64) : Option Binary64 :=
  ofRatio? (x.negative != y.negative) (x.ratio.1 * y.ratio.1) (x.ratio.2 * y.ratio.2)

def div? (x y : Binary64) : Option Binary64 :=
  ofRatio? (x.negative != y.negative) (x.ratio.1 * y.ratio.2) (x.ratio.2 * y.ratio.1)

def powerOfTen? (n : Nat) : Option Binary64 := ofRatio? false (power 10 n).1 1

def maxPowerOfTen : Nat := 308

/-- A number divided so many times by the greatest power of ten within the format. Zero stays
as it is. -/
def divMaxPower? : Nat → Binary64 → Option Binary64
  | 0, x => some x
  | steps + 1, x =>
    if x.significand = 0 then some x
    else do divMaxPower? steps (← x.div? (← powerOfTen? maxPowerOfTen))

/-- A number divided by a power of ten, in steps no power of which is beyond the format. -/
def divPowerOfTen? (x : Binary64) (n : Nat) : Option Binary64 := do
  let steps := (n - 1) / maxPowerOfTen
  let y ← divMaxPower? steps x
  y.div? (← powerOfTen? (n - steps * maxPowerOfTen))

/-- The number written as `digits * 10 ^ exponent`: the digits are rounded first and then
multiplied or divided by the rounded power of ten, none where that is beyond the format. -/
def ofDecimal? (negative : Bool) (digits : Nat) (exponent : Int) : Option Binary64 := do
  let x ← ofRatio? negative digits 1
  if exponent < 0 then x.divPowerOfTen? (-exponent).toNat
  else if exponent.toNat ≤ maxPowerOfTen then x.mul? (← powerOfTen? exponent.toNat)
  else if x.significand = 0 then some x
  else none

end Binary64

end Rollout
