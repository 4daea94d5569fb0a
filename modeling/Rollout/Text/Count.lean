import Rollout.Number.Power
import Rollout.Text.Digits

/-!
# Counts

Texts of natural numbers below `2 ^ 64`: decimal digits behind a plus sign that may be absent. A
text is read from left to right, and what is wrong first is what is reported.
-/

namespace Rollout.Text

inductive CountFault where
  | empty
  | invalidDigit
  | tooLarge
  deriving DecidableEq, Repr

def CountFault.message : CountFault → String
  | .empty => "cannot parse integer from empty string"
  | .invalidDigit => "invalid digit found in string"
  | .tooLarge => "number too large to fit in target type"

/-- Reads digits that follow those of `n`. -/
def readDigits (n : Nat) : List Char → Except CountFault Nat
  | [] => .ok n
  | c :: rest =>
    match digitValue? c with
    | none => .error .invalidDigit
    | some d => if n * 10 + d < wordLimit then readDigits (n * 10 + d) rest else .error .tooLarge

def readCountChars : List Char → Except CountFault Nat
  | [] => .error .empty
  | ['+'] => .error .invalidDigit
  | '+' :: rest => readDigits 0 rest
  | cs => readDigits 0 cs

def readCount (text : String) : Except CountFault Nat := readCountChars text.toList

end Rollout.Text
