import Rollout.Group
import Rollout.Update.Plan

/-!
# Backends of a rehearsal

A rehearsed update makes its calls to a group in memory, or to a script that says beforehand how
the group looks at each listing.
-/

namespace Rollout.Rehearsal

open Update

/-- What a script says of one listing. -/
inductive Scene where
  /-- The group has these instances. The health of those not named is good. -/
  | shows (instances : List Instance) (healths : Dictionary Health)
  /-- Listing fails for these reasons, the outermost first. -/
  | fails (causes : List String)

def Scene.listing : Scene → Except (List String) (List Instance)
  | .shows instances _ => .ok instances
  | .fails causes => .error causes

def Scene.health : Scene → String → Health
  | .shows _ healths, id => (healths.get? id).getD .healthy
  | .fails _, _ => .healthy

/-- The scene of the listing with a number, counted from one. The last scene goes on. -/
def sceneAt (scenes : List Scene) (listing : Nat) : Scene :=
  scenes[min (listing - 1) (scenes.length - 1)]?.getD (.shows [] ∅)

/-- Where the calls of a rehearsed update go. -/
inductive Backend where
  | group (group : Group)
  | script (scenes : List Scene)

namespace Backend

/-- The answer to a call, with the backend after it and what it tells. `listing` is the number
of the latest listing. -/
def answer (listing : Nat) : Backend → (call : Call) → call.Answer × Backend × List Note
  | .group g, .list =>
    let (answer, g) := g.list
    (answer, .group g, [])
  | .group g, .health i => (g.health i.id, .group g, [])
  | .group g, .destroy i reason =>
    let (g, notes) := g.destroy i.id reason
    ((), .group g, notes)
  | .script scenes, .list => ((sceneAt scenes listing).listing, .script scenes, [])
  | .script scenes, .health i => ((sceneAt scenes listing).health i.id, .script scenes, [])
  | .script scenes, .destroy .. => ((), .script scenes, [])

/-- Makes a change to a group. A script stays as it is. -/
def apply : Backend → Group.Change → Backend × List Note
  | .group g, change =>
    let (g, notes) := g.apply change
    (.group g, notes)
  | .script scenes, _ => (.script scenes, [])

end Backend

end Rollout.Rehearsal
