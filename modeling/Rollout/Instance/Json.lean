import Rollout.Settings

/-!
# Instances as JSON

Instances are written as objects, without the members that are none. They are read from objects,
in which further members are ignored, and from arrays of their parts in a fixed order, of which
only the id must be there.
-/

namespace Rollout

namespace Tags

def toJson (tags : Tags) : Json := .obj (tags.entries.map fun e => (e.1, .str e.2))

def entry? (m : String × Json) : Option (String × String) := m.2.asString?.map (m.1, ·)

/-- Reads tags: an object all of whose values are strings. -/
def ofJson? : Json → Option Tags
  | .obj members => (members.mapM entry?).map .ofList
  | _ => none

end Tags

namespace Instance

def members (i : Instance) : List (String × Json) :=
  ("id", .str i.id)
    :: (i.slot.map fun slot => ("logical_id", Json.str slot)).toList
    ++ ("tags", Tags.toJson i.tags)
    :: (i.properties.map fun properties => ("properties", properties)).toList

def toJson (i : Instance) : Json := .obj i.members

/-- Reads an optional text, which null stands for too. -/
def optionalText? : Option Json → Option (Option String)
  | none => some none
  | some .null => some none
  | some (.str s) => some (some s)
  | some _ => none

/-- Reads tags that may be absent, but not null. -/
def optionalTags? : Option Json → Option Tags
  | none => some ∅
  | some value => Tags.ofJson? value

/-- Optional properties: null stands for none. -/
def optionalProperties : Option Json → Option Json
  | some .null => none
  | value => value

def ofParts? (id slot tags properties : Option Json) : Option Instance := do
  let id ← (← id).asString?
  let slot ← optionalText? slot
  let tags ← optionalTags? tags
  some ⟨id, slot, tags, optionalProperties properties⟩

def ofJson? : Json → Option Instance
  | .obj members =>
    ofParts? (Json.member? members "id") (Json.member? members "logical_id")
      (Json.member? members "tags") (Json.member? members "properties")
  | .arr items =>
    if items.length ≤ 4 then ofParts? items[0]? items[1]? items[2]? items[3]? else none
  | _ => none

end Instance

def Health.ofJson? (value : Json) : Option Health := value.name?.bind Health.ofName?

def Reason.ofJson? (value : Json) : Option Reason := value.name?.bind Reason.ofName?

def SelfPolicy.ofJson? (value : Json) : Option SelfPolicy := value.name?.bind SelfPolicy.ofName?

end Rollout
