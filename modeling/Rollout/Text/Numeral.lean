import Rollout.Text.Blank

/-!
# Numerals

Texts that stand for a number: digits behind a sign that may be absent, with a fraction or an
exponent, or the name of one of the values of binary arithmetic that are no ordinary number.
-/

namespace Rollout.Text

def withoutSign : List Char → List Char
  | '+' :: rest => rest
  | '-' :: rest => rest
  | cs => cs

def isExponentOrEmpty : List Char → Bool
  | [] => true
  | e :: rest =>
    (e == 'e' || e == 'E')
      && !(withoutSign rest).isEmpty && (withoutSign rest).all Char.isDigit

/-- Whether characters are digits, with a point among them or an exponent behind them. -/
def isDecimalNumeral (cs : List Char) : Bool :=
  let whole := cs.takeWhile Char.isDigit
  match cs.dropWhile Char.isDigit with
  | '.' :: rest =>
    !(whole ++ rest.takeWhile Char.isDigit).isEmpty
      && isExponentOrEmpty (rest.dropWhile Char.isDigit)
  | rest => !whole.isEmpty && isExponentOrEmpty rest

/-- The names of the values that are no ordinary number, in lower case. -/
def numeralNames : List String := ["inf", "infinity", "nan"]

/-- Whether a text stands for a number. -/
def isNumeral (text : String) : Bool :=
  let cs := withoutSign text.toList
  isDecimalNumeral cs || numeralNames.contains (lower (String.ofList cs))

end Rollout.Text
