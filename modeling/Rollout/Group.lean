import Rollout.Note
import Rollout.Text.Digits

/-!
# Groups

A group of instances held in memory. Every instance is healthy until something else is said of
it. Where a replacement revision is set, a new instance comes in the place of each one that is
destroyed: it takes over the slot, goes to the end of the group, and has an id of its own from a
serial number.
-/

namespace Rollout

structure Group where
  members : List Instance
  /-- What has been said about the health of instances. -/
  healths : Dictionary Health := ∅
  /-- Every instance destroyed so far, in order, and why. -/
  destroyed : List (String × Reason) := []
  /-- The revision of replacements. Without one, destroyed instances are not replaced. -/
  replacement : Option Revision := none
  /-- The health of replacements when they are made. -/
  replacementHealth : Health := .healthy
  /-- The serial number of the next replacement. -/
  serial : UInt64 := 0
  /-- How often the group was listed, failures included. -/
  listCalls : Nat := 0
  /-- Whether listing fails. -/
  failing : Bool := false

namespace Group

inductive Change where
  | setHealth (id : String) (health : Health)
  | setHealthOf (revision : Revision) (health : Health)
  | setFailing (failing : Bool)
  | destroy (id : String) (reason : Reason)
  deriving DecidableEq, Repr

def health (g : Group) (id : String) : Health := (g.healths.get? id).getD .healthy

def count (g : Group) (revision : Revision) : Nat :=
  g.members.countP (Instance.hasRevision revision)

def setHealth (g : Group) (id : String) (health : Health) : Group :=
  { g with healths := g.healths.insert id health }

/-- Says something about the health of all members tagged with a revision, and of replacements
to come if they have it. -/
def setHealthOf (g : Group) (revision : Revision) (health : Health) : Group :=
  let ids := (g.members.filter (Instance.hasRevision revision)).map Instance.id
  { g with
    healths := ids.foldl (fun healths id => healths.insert id health) g.healths
    replacementHealth := if g.replacement = some revision then health else g.replacementHealth }

def listFailure : List String := ["memory group configured to fail list"]

def list (g : Group) : Except (List String) (List Instance) × Group :=
  (if g.failing then .error listFailure else .ok g.members, { g with listCalls := g.listCalls + 1 })

def replacementId (serial : UInt64) : String :=
  "replacement-" ++ String.ofList (Text.paddedDecimal 4 serial.toNat)

/-- The instance that comes in the place of another: of that one it keeps the slot, and the slot
among the tags. -/
def replacementOf (removed : Instance) (revision : Revision) (serial : UInt64) : Instance :=
  let fresh := { Instance.ofId (replacementId serial) with slot := removed.slot }
  let tagged := fresh.withRevision revision
  match Tags.slot? removed.tags with
  | some slot => tagged.withTag Tags.slotKey slot
  | none => tagged

/-- A group without the first member with an id, which is entered among the destroyed. -/
def remove (g : Group) (id : String) (reason : Reason) : Group :=
  { g with
    members := g.members.eraseP fun i => i.id == id
    healths := g.healths.erase id
    destroyed := g.destroyed ++ [(id, reason)] }

/-- A group with one more member, a replacement for one that was removed. -/
def replace (g : Group) (removed : Instance) (revision : Revision) : Group × List Note :=
  let fresh := replacementOf removed revision g.serial
  ({ g with
      members := g.members ++ [fresh]
      healths := g.healths.insert fresh.id g.replacementHealth
      serial := g.serial + 1 },
    [.replaced fresh.id removed.id revision])

/-- Destroys the first member with an id. An id that no member has changes nothing. -/
def destroy (g : Group) (id : String) (reason : Reason) : Group × List Note :=
  match g.members.find? fun i => i.id == id with
  | none => (g, [.unknownInstance id])
  | some removed =>
    let rest := g.remove id reason
    match g.replacement with
    | none => (rest, [.destroyed id reason])
    | some revision =>
      let (full, notes) := rest.replace removed revision
      (full, .destroyed id reason :: notes)

def apply (g : Group) : Change → Group × List Note
  | .setHealth id health => (g.setHealth id health, [])
  | .setHealthOf revision health => (g.setHealthOf revision health, [])
  | .setFailing failing => ({ g with failing }, [])
  | .destroy id reason => g.destroy id reason

end Group

end Rollout
