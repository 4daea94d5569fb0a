import Rollout.Json.Number

/-!
# JSON values

A value as it is given, with the members of an object in some order. `ofMembers` builds an
object from members in which a key may occur again: the last one counts, and no key is left
twice.
-/

namespace Rollout

inductive Json where
  | null
  | bool (value : Bool)
  | num (value : Json.Number)
  | str (value : String)
  | arr (items : List Json)
  | obj (members : List (String × Json))
  deriving Repr

namespace Json

def member? (members : List (String × Json)) (key : String) : Option Json :=
  (members.find? fun m => m.1 == key).map Prod.snd

def get? (key : String) : Json → Option Json
  | .obj members => member? members key
  | _ => none

/-- Members with one more, which takes the place of an earlier one of its key. -/
def put (members : List (String × Json)) (key : String) (value : Json) : List (String × Json) :=
  match members with
  | [] => [(key, value)]
  | m :: rest => if m.1 = key then (key, value) :: rest else m :: put rest key value

/-- The object with the given members, of which the last one of a key counts. -/
def ofMembers (members : List (String × Json)) : Json :=
  .obj (members.foldl (fun found m => put found m.1 m.2) [])

def asString? : Json → Option String
  | .str s => some s
  | _ => none

def asBool? : Json → Option Bool
  | .bool b => some b
  | _ => none

/-- The number below `2 ^ 64` that a value is. -/
def asCount? : Json → Option Nat
  | .num n => n.toCount?
  | _ => none

def asArray? : Json → Option (List Json)
  | .arr items => some items
  | _ => none

def asObject? : Json → Option (List (String × Json))
  | .obj members => some members
  | _ => none

/-- The name that a value gives: a string, or an object whose only member is null under the
name. -/
def name? : Json → Option String
  | .str name => some name
  | .obj [(name, .null)] => some name
  | _ => none

def ofNat (n : Nat) : Json := .num (.integer n)

end Json

end Rollout
