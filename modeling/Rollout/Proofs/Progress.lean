import Rollout.Proofs.Confirmation
import Rollout.Proofs.Transition

/-!
# Progress through one order of destroys

Where nobody else destroys instances, the members that are to be replaced at the beginning are
destroyed in one order, however often the update is begun anew and however its runs end. Each
cycle of a run sorts what it has just listed, but what it lists is always the rest of that order:
`Progress.destroy` is the step in which one more is gone, and all other steps keep what there is.
-/

namespace Rollout.Update

/-- How far a group has come since it was `g`: of the members that were to be replaced then, some
are gone and the others left, in the order of destroys. -/
structure Progress (plan : Plan) (g t : Group) (gone left : List Instance) : Prop where
  order_eq : plan.source.destroyOrder (plan.target.unwanted g.members) = gone ++ left
  destroyed_eq : t.destroyed = g.destroyed ++ gone.map fun i => (i.id, .rollingUpdate)
  /-- The members that are to be replaced now are those that are left. -/
  left_eq : plan.source.destroyOrder (plan.target.unwanted t.members) = left
  /-- The members that were to stay are members still, in their order. -/
  kept : (plan.target.wanted g.members).Sublist t.members

variable {plan : Plan} {g t t' : Group} {gone left others : List Instance} {victim : Instance}
  {r s : Site}

theorem Progress.refl (plan : Plan) (g : Group) :
    Progress plan g g [] (plan.source.destroyOrder (plan.target.unwanted g.members)) where
  order_eq := rfl
  destroyed_eq := by simp
  left_eq := rfl
  kept := List.filter_sublist

theorem Progress.congr (h : Progress plan g t gone left) (hmembers : t'.members = t.members)
    (hdestroyed : t'.destroyed = t.destroyed) : Progress plan g t' gone left where
  order_eq := h.order_eq
  destroyed_eq := hdestroyed.trans h.destroyed_eq
  left_eq := by
    rw [hmembers]
    exact h.left_eq
  kept := by
    rw [hmembers]
    exact h.kept

theorem Progress.destroy (h : Progress plan g t gone (victim :: others))
    (hl : t.Lineage plan.target.revision) :
    Progress plan g (t.destroy victim.id .rollingUpdate).1 (gone ++ [victim]) others := by
  have hvictim : victim ∈ plan.target.unwanted t.members := by
    rw [← (Settings.destroyOrder_perm plan.source _).mem_iff, h.left_eq]
    exact List.mem_cons_self
  obtain ⟨hmem, hout⟩ := Settings.mem_unwanted.1 hvictim
  refine ⟨?_, ?_, Group.destroyOrder_destroy hl h.left_eq _, ?_⟩
  · rw [h.order_eq, List.append_assoc]
    rfl
  · rw [Group.destroyed_destroy hmem, h.destroyed_eq]
    simp
  · obtain ⟨before, after, ht, hafter⟩ :=
      Group.members_destroy_of_mem_unwanted hl hvictim .rollingUpdate
    -- What was to stay is still to stay, so it is not the victim.
    have hkept := h.kept.filter plan.target.wants
    rw [ht, Settings.wanted, List.filter_filter] at hkept
    have hrest : (plan.target.wanted g.members).Sublist
        (plan.target.wanted (before ++ after)) := by
      simpa [Settings.wanted, hout] using hkept
    rw [hafter]
    exact hrest.trans (List.filter_sublist.trans (List.sublist_append_left _ _))

theorem Site.Reach.destroyOrder_eq {expected : Nat}
    (h : Site.Reach plan Group.Change.Spares g s)
    (hissued : s.point.status = .calling (.destroy expected victim)) :
    ∃ others, plan.source.destroyOrder (plan.target.unwanted s.group.members) =
      victim :: others := by
  have hstands := h.stands
  rw [hissued] at hstands
  obtain ⟨before, choice, others, -, hchosen, hcalls⟩ := hstands
  obtain rfl : choice = s.group.members := h.shown before choice [] hcalls rfl
  exact ⟨others, hchosen⟩

theorem Site.Reach.progress (h : Site.Reach plan Group.Change.Spares g s)
    (hl : g.Lineage plan.target.revision) : ∃ gone left, Progress plan g s.group gone left := by
  induction h with
  | first => exact ⟨_, _, .refl plan g⟩
  | @step s t reach step ih =>
      obtain ⟨gone, left, h⟩ := ih
      cases step with
      | @change c spares =>
          exact ⟨gone, left, h.congr (spares.members_apply _) (spares.destroyed_apply _)⟩
      | advance step =>
          cases step with
          | stop | wake => exact ⟨gone, left, h⟩
          | @reply _ stage _ calls =>
              cases stage with
              -- Only a destroy moves one from those that are left to those that are gone.
              | survey | poll | choose => exact ⟨gone, left, h.congr rfl rfl⟩
              | probe => exact ⟨gone, left, h⟩
              | destroy expected victim =>
                  obtain ⟨others, hothers⟩ := reach.destroyOrder_eq calls
                  obtain rfl : victim :: others = left := hothers.symm.trans h.left_eq
                  exact ⟨gone ++ [victim], others, h.destroy (reach.lineage hl)⟩
  | again _ _ ih => exact ih

/-- A run that is done has just seen that no member is to be replaced. -/
theorem Site.Reach.unwanted_eq_nil (h : Site.Reach plan Group.Change.Spares g r)
    (hr : r.point.status = .calling .survey) (hsteps : Site.Steps plan Group.Change.Spares r s)
    (hs : s.point.status = .ended .done) : plan.target.unwanted s.group.members = [] := by
  obtain ⟨later, hlater, -, hcourse⟩ := hsteps.course
  have hshown := (h.steps hsteps).shown
  rcases hcourse.closes (.inr (by decide)) (by rw [hr]; trivial) (by simp [hr]) hs with
    ⟨hhalted, -⟩ | ⟨before, time, stage, answer, after, rfl, hafter, hcloses⟩
  · exact absurd hhalted (by decide)
  · cases hcloses with
    | nothing_left expected snapshot none_unwanted =>
        have hreplies : replies s.history =
            replies (r.history ++ before) ++ ⟨.list, .ok snapshot⟩ :: [] := by
          rw [hlater, replies_append, replies_append, replies_append, replies_cons_reply, hafter,
            List.append_assoc]
        rw [← hshown _ _ _ hreplies rfl]
        exact none_unwanted

/-- Where nobody else destroys instances, the runs of an update destroy the members that are to be
replaced in one order, whatever ends them; and a run is done only when all of them are gone. -/
theorem progress_of_reach (hids : (g.members.map Instance.id).Nodup)
    (hreplacement : g.replacement = none ∨ g.replacement = some plan.target.revision)
    (hreach : Site.Reach plan Group.Change.Spares g s) :
    ∃ gone left, Progress plan g s.group gone left ∧
      ∀ r, Site.Reach plan Group.Change.Spares g r → r.point.status = .calling .survey →
        Site.Steps plan Group.Change.Spares r s → s.point.status = .ended .done → left = [] := by
  have hl : g.Lineage plan.target.revision := by
    refine .of_nodup hids fun revision hrevision => ?_
    rcases hreplacement with hnone | hsome
    · simp [hnone] at hrevision
    · exact Option.some.inj (hrevision.symm.trans hsome)
  obtain ⟨gone, left, h⟩ := hreach.progress hl
  refine ⟨gone, left, h, ?_⟩
  intro r hr hsurvey hsteps hdone
  rw [← h.left_eq, Settings.destroyOrder_eq_nil_iff]
  exact hr.unwanted_eq_nil hsurvey hsteps hdone

namespace Sample

/-- The group after a second run has destroyed the other one. -/
def renewed : Group := (halfway.destroy "b" .rollingUpdate).1

def second : Instance := Group.replacementOf (old "b") "r2" 1

end Sample

open Sample in
/-- A run is abandoned after its first destroy, and the next one goes on until it is done. -/
theorem progress_of_reach_done :
    ∃ s, Site.Reach Sample.plan Group.Change.Spares pair s ∧ s.point.status = .ended .done ∧
      Progress Sample.plan pair s.group [old "a", old "b"] [] ∧
      s.group.members = [fresh, second] := by
  obtain ⟨_, h⟩ := reach_first_destroy Group.Change.Spares
  have h : Site.Reach _ _ _ ⟨{ halfway with listCalls := 3 }, 10,
      ⟨10, false, .waiting (.replace 1) (ticker 20)⟩, _⟩ :=
    h.step (.reply (Nat.le_refl 10) rfl rfl)
  have hr : Site.Reach _ _ _ ⟨{ halfway with listCalls := 3 }, 10,
      ⟨10, false, .calling .survey⟩, _⟩ := h.again (.inl rfl)
  have h : Site.Steps Sample.plan Group.Change.Spares
      ⟨{ halfway with listCalls := 3 }, 10, ⟨10, false, .calling .survey⟩, []⟩
      ⟨{ halfway with listCalls := 4 }, 10,
        ⟨10, false, .waiting (.replace 1) (ticker 20)⟩, _⟩ :=
    .single (.reply (Nat.le_refl 10) rfl rfl)
  have h : Site.Steps _ _ _ ⟨_, 10, ⟨20, false, .calling (.poll (.replace 1) (ticker 30))⟩, _⟩ :=
    h.tail (.wake (by decide) rfl)
  have h : Site.Steps _ _ _ ⟨{ halfway with listCalls := 5 }, 10,
      ⟨20, false, .calling (.probe (.replace 1) (ticker 30) {} fresh [])⟩, _⟩ :=
    h.tail (.reply (Nat.le_refl 20) rfl rfl)
  have h : Site.Steps _ _ _ ⟨_, 10, ⟨20, false, .calling (.choose 1)⟩, _⟩ :=
    h.tail (.reply (Nat.le_refl 20) rfl rfl)
  have h : Site.Steps _ _ _ ⟨{ halfway with listCalls := 6 }, 10,
      ⟨20, false, .calling (.destroy 1 (old "b"))⟩, _⟩ :=
    h.tail (.reply (Nat.le_refl 20) rfl
      (status_proceed (Settings.destroyOrder_eq_self (by decide))))
  have h : Site.Steps _ _ _ ⟨{ renewed with listCalls := 6 }, 10,
      ⟨20, false, .waiting (.replace 2) (ticker 30)⟩, _⟩ :=
    h.tail (.reply (Nat.le_refl 20) rfl rfl)
  have h : Site.Steps _ _ _ ⟨_, 10, ⟨30, false, .calling (.poll (.replace 2) (ticker 40))⟩, _⟩ :=
    h.tail (.wake (by decide) rfl)
  have h : Site.Steps _ _ _ ⟨{ renewed with listCalls := 7 }, 10,
      ⟨30, false, .calling (.probe (.replace 2) (ticker 40) {} fresh [second])⟩, _⟩ :=
    h.tail (.reply (Nat.le_refl 30) rfl rfl)
  have h : Site.Steps _ _ _ ⟨_, 10,
      ⟨30, false, .calling (.probe (.replace 2) (ticker 40) ⟨1, 0⟩ second [])⟩, _⟩ :=
    h.tail (.reply (Nat.le_refl 30) rfl rfl)
  have h : Site.Steps _ _ _ ⟨_, 10, ⟨30, false, .calling (.choose 2)⟩, _⟩ :=
    h.tail (.reply (Nat.le_refl 30) rfl rfl)
  have h : Site.Steps _ _ _ ⟨{ renewed with listCalls := 8 }, 10,
      ⟨30, false, .ended .done⟩, _⟩ :=
    h.tail (.reply (Nat.le_refl 30) rfl (status_proceed_of_nil 2 rfl))
  obtain ⟨gone, left, hprogress, hdone⟩ :=
    progress_of_reach (by decide) (.inr rfl) (hr.steps h)
  obtain rfl := hdone _ hr rfl h rfl
  have hgone : gone = [old "a", old "b"] := by
    rw [← List.append_nil gone, ← hprogress.order_eq]
    exact Settings.destroyOrder_eq_self (by decide)
  subst hgone
  exact ⟨_, hr.steps h, rfl, hprogress, rfl⟩

end Rollout.Update
