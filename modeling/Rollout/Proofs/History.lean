import Rollout.Proofs.Lineage

/-!
# Histories of a group

Everything that is done to a group: changes by others, listings, and questions about healths. What
each operation keeps, a history keeps (`Group.performAll_induction`). Only a destroy touches the
members, the log and the serial number; `Group.destroy_cases` says in full what it does.
-/

namespace Rollout.Group

inductive Op where
  | change (c : Change)
  | list
  | health (id : String)
  deriving DecidableEq, Repr

def Op.isDestroy : Op → Bool
  | .change (.destroy ..) => true
  | _ => false

def perform (g : Group) : Op → Group
  | .change c => (g.apply c).1
  | .list => g.list.2
  | .health _ => g

def performAll (g : Group) (ops : List Op) : Group := ops.foldl perform g

/-- A new group, of which nothing was destroyed yet. -/
def ofMembers (members : List Instance) (replacement : Option Revision)
    (replacementHealth : Health) : Group :=
  { members, replacement, replacementHealth }

@[simp] theorem performAll_concat (g : Group) (ops : List Op) (op : Op) :
    g.performAll (ops ++ [op]) = (g.performAll ops).perform op := by
  simp [performAll]

theorem performAll_induction {P : Group → Prop} {g : Group} (start : P g)
    (step : ∀ g op, P g → P (g.perform op)) (ops : List Op) : P (g.performAll ops) := by
  induction ops generalizing g with
  | nil => exact start
  | cons op ops ih => exact ih (step g op start)

theorem replacement_perform (g : Group) (op : Op) : (g.perform op).replacement = g.replacement := by
  cases op with
  | change c => exact replacement_apply g c
  | list | health id => rfl

theorem replacement_performAll (g : Group) (ops : List Op) :
    (g.performAll ops).replacement = g.replacement :=
  performAll_induction (P := fun t => t.replacement = g.replacement) rfl
    (fun t op h => (replacement_perform t op).trans h) ops

end Rollout.Group
