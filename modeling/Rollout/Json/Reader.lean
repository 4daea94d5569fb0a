import Rollout.Json.Basic
import Rollout.Json.Escape

/-!
# Reading JSON texts

A text is first cut into tokens; the tokens are then read from left to right, with the arrays
and objects that are still open on a stack. `unescape_length` is what makes the cutting end.
-/

namespace Rollout.Json

theorem unescape_length {cs text rest : List Char} (h : unescape cs = some (text, rest)) :
    rest.length < cs.length := by
  fun_induction unescape cs generalizing text rest <;> simp_all <;> grind

/-- The smallest units of meaning of a JSON text. -/
inductive Token where
  | openObject
  | closeObject
  | openArray
  | closeArray
  | comma
  | colon
  | null
  | bool (value : Bool)
  | str (value : String)
  | num (value : Number)
  deriving Repr

def isBlank (c : Char) : Bool := c = ' ' || c = '\n' || c = '\r' || c = '\t'

def isNumberChar (c : Char) : Bool :=
  c.isDigit || c = '-' || c = '+' || c = '.' || c = 'e' || c = 'E'

def tokens? (cs : List Char) : Option (List Token) :=
  match cs with
  | [] => some []
  | '{' :: rest => (tokens? rest).map (.openObject :: ·)
  | '}' :: rest => (tokens? rest).map (.closeObject :: ·)
  | '[' :: rest => (tokens? rest).map (.openArray :: ·)
  | ']' :: rest => (tokens? rest).map (.closeArray :: ·)
  | ',' :: rest => (tokens? rest).map (.comma :: ·)
  | ':' :: rest => (tokens? rest).map (.colon :: ·)
  | 'n' :: 'u' :: 'l' :: 'l' :: rest => (tokens? rest).map (.null :: ·)
  | 't' :: 'r' :: 'u' :: 'e' :: rest => (tokens? rest).map (.bool true :: ·)
  | 'f' :: 'a' :: 'l' :: 's' :: 'e' :: rest => (tokens? rest).map (.bool false :: ·)
  | '"' :: body =>
    match _h : unescape body with
    | none => none
    | some (text, rest) => (tokens? rest).map (.str (String.ofList text) :: ·)
  | c :: rest =>
    if isBlank c then tokens? rest
    else
      match Number.ofChars? (c :: rest.takeWhile isNumberChar) with
      | none => none
      | some n => (tokens? (rest.dropWhile isNumberChar)).map (.num n :: ·)
termination_by cs.length
decreasing_by
  all_goals simp only [List.length_cons]
  any_goals omega
  · have := unescape_length _h
    omega
  · have := (List.dropWhile_sublist isNumberChar (l := rest)).length_le
    omega

/-- An array or object that is still open, with what it holds so far, the newest first. -/
inductive Frame where
  | arr (items : List Json)
  | obj (members : List (String × Json)) (key : String)

mutual

/-- Reads a value, which belongs into the innermost open frame. -/
def readValue (stack : List Frame) : List Token → Option Json
  | .null :: rest => readOn .null stack rest
  | .bool b :: rest => readOn (.bool b) stack rest
  | .str s :: rest => readOn (.str s) stack rest
  | .num n :: rest => readOn (.num n) stack rest
  | .openArray :: .closeArray :: rest => readOn (.arr []) stack rest
  | .openArray :: rest => readValue (.arr [] :: stack) rest
  | .openObject :: .closeObject :: rest => readOn (.obj []) stack rest
  | .openObject :: .str key :: .colon :: rest => readValue (.obj [] key :: stack) rest
  | _ => none

/-- Goes on behind a value: closes the innermost frame with it, or reads the next one. -/
def readOn (value : Json) (stack : List Frame) (ts : List Token) : Option Json :=
  match stack, ts with
  | [], [] => some value
  | .arr items :: stack, .comma :: rest => readValue (.arr (value :: items) :: stack) rest
  | .arr items :: stack, .closeArray :: rest =>
    readOn (.arr (value :: items).reverse) stack rest
  | .obj members key :: stack, .comma :: .str next :: .colon :: rest =>
    readValue (.obj ((key, value) :: members) next :: stack) rest
  | .obj members key :: stack, .closeObject :: rest =>
    readOn (ofMembers ((key, value) :: members).reverse) stack rest
  | _, _ => none

end

def parse? (text : String) : Option Json := (tokens? text.toList).bind (readValue [])

end Rollout.Json
