import Rollout.Json.Basic
import Rollout.Json.Escape

/-!
# Canonical JSON text

One text for each value: no blanks, and the members of an object in ascending order of their
keys, so that the order in which members were given leaves no trace.
-/

namespace Rollout.Json

def joined (separator : Char) : List (List Char) → List Char
  | [] => []
  | [text] => text
  | text :: rest => text ++ separator :: joined separator rest

/-- A member of an object whose value is written already. -/
def memberChars (m : String × List Char) : List Char := quote m.1 ++ ':' :: m.2

def sortMembers {α : Type} (members : List (String × α)) : List (String × α) :=
  members.mergeSort fun a b => decide (a.1 ≤ b.1)

mutual

/-- The canonical text of a value. -/
def chars : Json → List Char
  | .null => ['n', 'u', 'l', 'l']
  | .bool true => ['t', 'r', 'u', 'e']
  | .bool false => ['f', 'a', 'l', 's', 'e']
  | .num n => n.chars
  | .str s => quote s
  | .arr items => '[' :: (joined ',' (charsOfItems items) ++ [']'])
  | .obj members =>
    '{' :: (joined ',' ((sortMembers (charsOfMembers members)).map memberChars) ++ ['}'])

def charsOfItems : List Json → List (List Char)
  | [] => []
  | item :: rest => item.chars :: charsOfItems rest

def charsOfMembers : List (String × Json) → List (String × List Char)
  | [] => []
  | (key, value) :: rest => (key, value.chars) :: charsOfMembers rest

end

def text (value : Json) : String := String.ofList value.chars

end Rollout.Json
