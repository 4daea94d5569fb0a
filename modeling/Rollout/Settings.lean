import Rollout.Instance.Basic
import Rollout.Text.Blank

/-!
# Settings

What a group is to look like on one side of an update: the revision of its instances and their
number, and how the instance on which the controller itself runs is to be treated.
-/

namespace Rollout

/-- Whether the controller may replace the instance it runs on. -/
inductive SelfPolicy where
  /-- Its own instance is never destroyed, also where its revision is out of date. -/
  | never
  /-- Its own instance is replaced, after all others. -/
  | last
  deriving DecidableEq, Repr

namespace SelfPolicy

def name : SelfPolicy → String
  | .never => "never"
  | .last => "last"

def ofName? : String → Option SelfPolicy
  | "never" => some .never
  | "last" => some .last
  | _ => none

/-- A text that names no policy. -/
structure Unknown where
  text : String
  deriving DecidableEq, Repr

def Unknown.message (u : Unknown) : String :=
  "invalid leader self-update policy '" ++ u.text ++ "': expected 'never' or 'last'"

/-- The policy that a text names, in any case of the letters and with blanks around it. -/
def ofText (text : String) : Except Unknown SelfPolicy :=
  match ofName? (Text.lower (Text.trim text)) with
  | some policy => .ok policy
  | none => .error ⟨text⟩

end SelfPolicy

/-- The configuration of a group on one side of an update. -/
structure Settings where
  /-- Instances tagged with this revision are up to date. -/
  revision : Revision
  /-- The number of instances of the group. -/
  size : Nat
  /-- The slot of the instance on which the controller runs. -/
  selfSlot : Option String := none
  policy : SelfPolicy := .last
  deriving DecidableEq, Repr

namespace Settings

def ofSpec (spec : Json) (size : Nat) : Settings := { revision := .ofSpec spec, size }

/-- Whether an instance is the one on which the controller runs: its slot is either its own or
that of its tag. -/
def isSelf (s : Settings) (i : Instance) : Bool :=
  match s.selfSlot with
  | none => false
  | some slot => i.slot == some slot || Tags.slot? i.tags == some slot

/-- Whether an instance must not be destroyed. -/
def protects (s : Settings) (i : Instance) : Bool := s.policy == .never && s.isSelf i

/-- Whether an instance is to stay: it has the right revision, or is protected. -/
def wants (s : Settings) (i : Instance) : Bool := i.hasRevision s.revision || s.protects i

def wanted (s : Settings) (snapshot : List Instance) : List Instance := snapshot.filter s.wants

def unwanted (s : Settings) (snapshot : List Instance) : List Instance :=
  snapshot.filter fun i => !s.wants i

/-- Whether an instance may be destroyed before another: the controller's own one comes after
all others, and otherwise the ids decide. -/
def precedes (s : Settings) (a b : Instance) : Bool :=
  if s.isSelf a = s.isSelf b then decide (a.id ≤ b.id) else s.isSelf b

/-- Instances in the order in which they are to be destroyed. Those that neither precede nor
follow each other keep their order. -/
def destroyOrder (s : Settings) (instances : List Instance) : List Instance :=
  instances.mergeSort s.precedes

end Settings

end Rollout
