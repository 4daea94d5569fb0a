import Rollout.Text.Digits
import Rollout.Text.GraphemeExtend
import Rollout.Text.Ignorable
import Rollout.Text.Unprintable

/-!
# Quoted text

A text shown in a message so that every character of it can be seen: in double quotes, with
short forms for the commonest escapes, and code points for what has no visible form, may be left
out where it is not known, or would attach itself to the character before it.
-/

namespace Rollout.Text

/-- The voicing marks of halfwidth Katakana. They extend the letter before them, but take a place
of their own in the line. -/
def isHalfwidthVoicing (c : Char) : Bool := c == '\uff9e' || c == '\uff9f'

/-- Whether a character attaches itself to the one before it, so that it could not be told apart
from the quotation mark in front of it. -/
def isAttached (c : Char) : Bool := graphemeExtend.contains c && !isHalfwidthVoicing c

/-- Whether a character is shown by its code point. -/
def isHidden (c : Char) : Bool :=
  unprintable.contains c || ignorable.contains c || isAttached c

def quotedChar (c : Char) : List Char :=
  if c = '"' then ['\\', '"']
  else if c = '\\' then ['\\', '\\']
  else if c = '\n' then ['\\', 'n']
  else if c = '\r' then ['\\', 'r']
  else if c = '\t' then ['\\', 't']
  else if c = '\x00' then ['\\', '0']
  else if isHidden c then '\\' :: 'u' :: '\x7b' :: (shortHex c.toNat ++ ['\x7d'])
  else [c]

def quoted (text : String) : String :=
  String.ofList ('"' :: (text.toList.flatMap quotedChar ++ ['"']))

end Rollout.Text
