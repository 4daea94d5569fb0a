import Rollout.Proofs.Agreement
import Rollout.Proofs.History

/-!
# Seats

The seat of an instance is its own slot and the slot of its tag, either of which may be missing.
A replacement takes the seat of the member that it replaces (`seat_replacementOf`), and whether a
member is the controller's own is decided by its seat alone. So a group that replaces what is
destroyed keeps its seats for ever, while the revisions on them change one by one.
-/

namespace Rollout

def Instance.seat (i : Instance) : Option String × Option String := (i.slot, Tags.slot? i.tags)

def Settings.ownsSeat (s : Settings) (seat : Option String × Option String) : Bool :=
  match s.selfSlot with
  | none => false
  | some slot => seat.1 == some slot || seat.2 == some slot

theorem Settings.isSelf_eq_ownsSeat (s : Settings) (i : Instance) :
    s.isSelf i = s.ownsSeat i.seat := by
  unfold isSelf ownsSeat
  cases s.selfSlot <;> rfl

namespace Group

variable {g : Group} {members : List Instance} {replacement : Option Revision}

theorem seat_replacementOf (removed : Instance) (revision : Revision) (serial : UInt64) :
    (replacementOf removed revision serial).seat = removed.seat :=
  congrArg (fun f : Face => (f.slot, f.tagged?)) (Face.face_replacementOf removed revision serial)

theorem seats_destroy (hr : g.replacement.isSome = true) (id : String) (reason : Reason) :
    ((g.destroy id reason).1.members.map Instance.seat).Perm (g.members.map Instance.seat) := by
  rcases members_destroy g id reason with ⟨-, heq⟩ | ⟨before, removed, after, hg, -, -, heq⟩
  · rw [heq]
  · obtain ⟨revision, hrevision⟩ := Option.isSome_iff_exists.1 hr
    have hfresh : (g.successors removed).map Instance.seat = [removed.seat] := by
      simp [successors, hrevision, seat_replacementOf]
    rw [heq, hg]
    simp only [List.map_append, List.map_cons, hfresh]
    exact (List.perm_append_singleton _ _).trans List.perm_middle.symm

theorem seats_perform (hr : g.replacement.isSome = true) (op : Op) :
    ((g.perform op).members.map Instance.seat).Perm (g.members.map Instance.seat) := by
  cases op with
  | change c =>
      cases c with
      | destroy id reason => exact seats_destroy hr id reason
      | setHealth | setHealthOf | setFailing => exact .refl _
  | list | health id => exact .refl _

theorem seats_performAll (hr : g.replacement.isSome = true) (ops : List Op) :
    ((g.performAll ops).members.map Instance.seat).Perm (g.members.map Instance.seat) := by
  have hboth := performAll_induction
    (P := fun t => t.replacement = g.replacement ∧
      (t.members.map Instance.seat).Perm (g.members.map Instance.seat))
    ⟨rfl, .refl _⟩ (fun t op h => ?_) ops
  · exact hboth.2
  · obtain ⟨hreplacement, hperm⟩ := h
    refine ⟨(replacement_perform t op).trans hreplacement, ?_⟩
    exact (seats_perform (hreplacement ▸ hr) op).trans hperm

theorem countP_isSelf_eq {xs ys : List Instance}
    (h : (xs.map Instance.seat).Perm (ys.map Instance.seat)) (s : Settings) :
    xs.countP s.isSelf = ys.countP s.isSelf := by
  have hcount (zs : List Instance) :
      zs.countP s.isSelf = (zs.map Instance.seat).countP s.ownsSeat := by
    rw [List.countP_map]
    exact List.countP_congr fun i _ => by simp [s.isSelf_eq_ownsSeat i]
  rw [hcount, hcount, h.countP_eq]

theorem count_successors (g : Group) (removed : Instance) (revision : Revision) :
    (g.successors removed).countP (Instance.hasRevision revision) =
      if g.replacement = some revision then 1 else 0 := by
  cases hr : g.replacement with
  | none => simp [successors, hr]
  | some r =>
      simp [successors, hr, List.countP_singleton, Instance.hasRevision, revision?_replacementOf]

/-- What stays as it was in a group with some members in the beginning, and what one more destroy
changes: it removes the first member with the id. -/
structure Seated (members : List Instance) (replacement : Option Revision) (g : Group) :
    Prop where
  seats : replacement.isSome = true → (g.members.map Instance.seat).Perm (members.map Instance.seat)
  own : replacement.isSome = true → ∀ s : Settings,
    g.members.countP s.isSelf = members.countP s.isSelf
  destroy : ∀ id reason,
    ((∀ i ∈ g.members, i.id ≠ id) ∧ (g.destroy id reason).1 = g) ∨
      ∃ before removed after, g.members = before ++ removed :: after ∧ removed.id = id ∧
        (∀ i ∈ before, i.id ≠ id) ∧ ∀ revision,
          ((g.destroy id reason).1.count revision : Int) = g.count revision +
            (if replacement = some revision then 1 else 0) -
            (if removed.hasRevision revision then 1 else 0)

theorem seated_performAll (members : List Instance) (replacement : Option Revision)
    (health : Health) (ops : List Op) :
    Seated members replacement ((ofMembers members replacement health).performAll ops) := by
  have hreplacement := replacement_performAll (ofMembers members replacement health) ops
  have hseats (hr : replacement.isSome = true) :=
    seats_performAll (g := ofMembers members replacement health) hr ops
  generalize (ofMembers members replacement health).performAll ops = g at *
  refine ⟨hseats, fun hr s => countP_isSelf_eq (hseats hr) s, fun id reason => ?_⟩
  rcases members_destroy g id reason with
    hunknown | ⟨before, removed, after, hg, hid, hbefore, heq⟩
  · exact .inl hunknown
  · refine .inr ⟨before, removed, after, hg, hid, hbefore, fun revision => ?_⟩
    have hfresh := count_successors g removed revision
    rw [show g.replacement = replacement from hreplacement] at hfresh
    simp only [count, heq, hg, List.countP_append, List.countP_cons, hfresh]
    by_cases hrevision : replacement = some revision <;>
      by_cases hremoved : removed.hasRevision revision = true <;>
        simp only [hrevision, hremoved, if_true, if_false, Bool.false_eq_true] <;> omega

end Group

end Rollout
