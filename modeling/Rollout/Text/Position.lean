/-!
# Positions

Places in a text, counted in the bytes of its UTF-8 form. A text is cut at positions that may
have been found in another one, so a position need not stand between two characters: one inside
a character counts as its end.
-/

namespace Rollout.Text

def byteLength : List Char → Nat
  | [] => 0
  | c :: rest => c.utf8Size + byteLength rest

/-- What stands before a position. -/
def untilByte : Nat → List Char → List Char
  | 0, _ => []
  | _ + 1, [] => []
  | n + 1, c :: rest => c :: untilByte (n + 1 - c.utf8Size) rest

/-- What stands from a position on. -/
def fromByte : Nat → List Char → List Char
  | 0, cs => cs
  | _ + 1, [] => []
  | n + 1, c :: rest => fromByte (n + 1 - c.utf8Size) rest

def between (start stop : Nat) (cs : List Char) : List Char :=
  untilByte (stop - start) (fromByte start cs)

end Rollout.Text
