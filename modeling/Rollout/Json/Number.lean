import Rollout.Number.Shortest

/-!
# Numbers of JSON texts

A number token without fraction and exponent that fits into 64 bits, signed or unsigned, stands
for an integer. All other tokens, `-0` among them, stand for binary64 numbers.
-/

namespace Rollout.Json

inductive Number where
  | integer (value : Int)
  | double (value : Binary64)
  deriving DecidableEq, Repr

namespace Number

def chars : Number → List Char
  | .integer (.ofNat n) => Text.decimal n
  | .integer (.negSucc n) => '-' :: Text.decimal (n + 1)
  | .double x => x.chars

def toCount? : Number → Option Nat
  | .integer (.ofNat n) => if n < wordLimit then some n else none
  | _ => none

/-- Digits gathered behind `start` while the value stays below `2 ^ 64`, with the number of
digits left out after that. -/
def gather (start : Nat) : List Nat → Nat × Nat
  | [] => (start, 0)
  | d :: rest =>
    if start * 10 + d < wordLimit then gather (start * 10 + d) rest else (start, rest.length + 1)

def valueOf (digits : List Nat) : Nat := digits.foldl (fun n d => n * 10 + d) 0

def spanDigits (cs : List Char) : List Nat × List Char :=
  ((cs.takeWhile Char.isDigit).filterMap Text.digitValue?, cs.dropWhile Char.isDigit)

/-- The number with the given parts, none where it is beyond the format. -/
def ofParts? (negative : Bool) (whole fraction : List Nat) (exponent : Int) : Option Number :=
  let (digits, left) := gather 0 whole
  let (digits, dropped) := gather digits fraction
  let taken := fraction.length - dropped
  (Binary64.ofDecimal? negative digits (exponent + left - taken)).map .double

def ofWhole? (negative : Bool) (whole : List Nat) : Option Number :=
  let n := valueOf whole
  if negative then
    if 0 < n ∧ n ≤ signedLimit then some (.integer (-n)) else ofParts? true whole [] 0
  else if n < wordLimit then some (.integer n)
  else ofParts? false whole [] 0

/-- The exponent of a token: nothing, or a mark, a sign that may be absent, and digits. -/
def exponent? : List Char → Option Int
  | [] => some 0
  | mark :: rest =>
    if mark = 'e' ∨ mark = 'E' then
      let (negative, body) :=
        match rest with
        | '-' :: body => (true, body)
        | '+' :: body => (false, body)
        | body => (false, body)
      match spanDigits body with
      | (d :: ds, []) =>
        let n : Int := valueOf (d :: ds)
        some (if negative then -n else n)
      | _ => none
    else none

/-- Reads a number token. Leading zeros are refused, and so are an empty fraction and an empty
exponent. -/
def ofChars? (cs : List Char) : Option Number :=
  let (negative, body) :=
    match cs with
    | '-' :: body => (true, body)
    | body => (false, body)
  match spanDigits body with
  | ([], _) => none
  | (0 :: _ :: _, _) => none
  | (whole, []) => ofWhole? negative whole
  | (whole, '.' :: rest) =>
    match spanDigits rest with
    | ([], _) => none
    | (fraction, tail) => (exponent? tail).bind (ofParts? negative whole fraction)
  | (whole, tail) => (exponent? tail).bind (ofParts? negative whole [])

end Number

end Rollout.Json
