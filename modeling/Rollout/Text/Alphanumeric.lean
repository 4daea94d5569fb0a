import Rollout.Text.Alphabetic
import Rollout.Text.Numeric

/-!
# Letters and digits

The letters of all scripts and the characters that stand for numbers, taken together.
-/

namespace Rollout.Text

def isAlphanumeric (c : Char) : Bool := isAlphabetic c || isNumeric c

end Rollout.Text
