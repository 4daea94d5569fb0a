import Rollout.Number.Binary64
import Rollout.Text.Digits

/-!
# Shortest decimal text

The decimal digits of a binary64 number are the fewest that read back as the number, and of
those the nearest to it; of two that are equally near the even one is taken. A number is read
back exactly from the decimals between the midpoints to its neighbours, the midpoints included
if its significand is even.
-/

namespace Rollout.Binary64

structure Decimal where
  digits : Nat
  exponent : Int
  deriving DecidableEq, Repr

/-- The fractions with a common denominator that enclose what reads back as a number. -/
structure Enclosure where
  lower : Nat
  value : Nat
  upper : Nat
  denominator : Nat
  closed : Bool

/-- The midpoints to the neighbours of a number other than zero. Below a power of two the
neighbour is half as far away. -/
def enclosure (x : Binary64) : Enclosure :=
  let below := if x.significand = leastNormal ∧ -1074 < x.exponent then 1 else 2
  let unit := power 2 x.exponent
  { lower := (4 * x.significand - below) * unit.1
    value := 4 * x.significand * unit.1
    upper := (4 * x.significand + 2) * unit.1
    denominator := 4 * unit.2
    closed := x.significand % 2 == 0 }

/-- The greatest power of ten that a positive fraction reaches. -/
def log10Ratio (num den : Nat) : Int :=
  if den ≤ num then ((Text.decimal (num / den)).length : Int) - 1
  else -((Text.decimal ((den + num - 1) / num - 1)).length : Int)

def Enclosure.reads (e : Enclosure) (d : Decimal) : Bool :=
  let unit := power 10 d.exponent
  let decimal := d.digits * unit.1 * e.denominator
  if e.closed then e.lower * unit.2 ≤ decimal && decimal ≤ e.upper * unit.2
  else e.lower * unit.2 < decimal && decimal < e.upper * unit.2

/-- Of the two multiples of a power of ten around the number enclosed, the nearest one that
reads back. -/
def Enclosure.onGrid? (e : Enclosure) (exponent : Int) : Option Decimal :=
  let num := e.value * (power 10 exponent).2
  let den := e.denominator * (power 10 exponent).1
  let low : Decimal := ⟨num / den, exponent⟩
  let high : Decimal := ⟨num / den + 1, exponent⟩
  let twice := 2 * (num % den)
  let lowFirst : Bool := twice < den || (twice == den && low.digits % 2 == 0)
  let (first, second) := if lowFirst then (low, high) else (high, low)
  if e.reads first then some first else if e.reads second then some second else none

def Decimal.trim (d : Decimal) : Decimal :=
  if d.digits = 0 then d
  else if d.digits % 10 = 0 then Decimal.trim ⟨d.digits / 10, d.exponent + 1⟩
  else d
termination_by d.digits
decreasing_by omega

/-- The shortest decimal that reads back as the number: grids of one digit, of two, and so on
to the seventeen that always suffice. -/
def shortest (x : Binary64) : Decimal :=
  if x.significand = 0 then ⟨0, 0⟩
  else
    let e := x.enclosure
    let top := log10Ratio e.value e.denominator
    let found := (List.range 17).findSome? fun (n : Nat) => e.onGrid? (top - n)
    (found.getD ⟨0, 0⟩).trim

structure Layout where
  leastPlain : Int
  greatestPlain : Int

/-- Plain notation is used from `0.00001` up to below `10 ^ 16`. -/
def Layout.standard : Layout := ⟨-5, 15⟩

/-- The digits of a decimal laid out: whole numbers keep one zero behind the point, and an
exponent has a sign and no padding. -/
def Layout.render (layout : Layout) (d : Decimal) : List Char :=
  let digits := Text.decimal d.digits
  let top : Int := d.exponent + digits.length - 1
  if top < layout.leastPlain ∨ layout.greatestPlain < top then
    let mantissa :=
      match digits with
      | first :: second :: rest => first :: '.' :: second :: rest
      | short => short
    mantissa ++ 'e' :: (if top < 0 then '-' else '+') :: Text.decimal top.natAbs
  else if 0 ≤ d.exponent then
    digits ++ List.replicate d.exponent.toNat '0' ++ ['.', '0']
  else if 0 ≤ top then
    digits.take (top.toNat + 1) ++ '.' :: digits.drop (top.toNat + 1)
  else
    '0' :: '.' :: List.replicate (-top - 1).toNat '0' ++ digits

/-- The text of a number: its sign, also that of zero, and the shortest digits. -/
def chars (x : Binary64) : List Char :=
  (if x.negative then ['-'] else []) ++ Layout.standard.render x.shortest

end Rollout.Binary64
