import Mathlib.Logic.Relation
import Rollout.Proofs.CallOrder
import Rollout.Proofs.Lineage

/-!
# Updates of a group among others

A group in memory, an update of it, and others who change the group at any time: before a call is
answered, between two calls, and between two runs. An update may be begun again and again; what
was in progress then is abandoned at that moment. `Site.Reach` are all sites that can arise, and
`Site.Steps` how one of them goes on as long as the update is not begun anew.
-/

namespace Rollout

open Update

def Group.answer (g : Group) : (call : Call) → call.Answer × Group
  | .list => g.list
  | .health i => (g.health i.id, g)
  | .destroy i reason => ((), (g.destroy i.id reason).1)

def Group.after (g : Group) : Event → Group
  | .reply stage _ => (g.answer stage.call).2
  | _ => g

@[simp] theorem Group.after_stop (g : Group) : g.after .stop = g := rfl

@[simp] theorem Group.after_wake (g : Group) : g.after .wake = g := rfl

namespace Update

section Answers

variable {g : Group}

theorem lineage_answer {revision : Revision} (h : g.Lineage revision) (call : Call) :
    (g.answer call).2.Lineage revision := by
  cases call with
  | list => exact ⟨h.replacement_eq, h.ids⟩
  | health i => exact h
  | destroy i reason => exact h.destroy i.id reason

theorem replacement_answer (g : Group) (call : Call) :
    (g.answer call).2.replacement = g.replacement := by
  cases call with
  | list => rfl
  | health i => rfl
  | destroy i reason => exact Group.replacement_destroy g i.id reason

theorem members_answer (g : Group) {call : Call} (h : call.kind ≠ .destroy) :
    (g.answer call).2.members = g.members := by
  cases call with
  | list => rfl
  | health i => rfl
  | destroy i reason => exact absurd rfl h

theorem answer_list_eq_ok {snapshot : List Instance}
    (h : (g.answer .list).1 = .ok snapshot) : snapshot = g.members := by
  simp only [Group.answer, Group.list] at h
  split at h
  · simp at h
  · exact (Except.ok.inj h).symm

/-- A listing that shows something shows the members, and keeps them. -/
theorem members_of_reply_eq {call : Call} {answer : call.Answer} {snapshot : List Instance}
    (ha : answer = (g.answer call).1) (h : (⟨call, answer⟩ : Reply) = ⟨.list, .ok snapshot⟩) :
    snapshot = g.members ∧ (g.answer call).2.members = g.members := by
  cases h
  exact ⟨answer_list_eq_ok ha.symm, rfl⟩

end Answers

/-- What is an answer is the answer of a group. -/
def Event.ComesFrom (g : Group) : Event → Prop
  | .reply stage answer => answer = (g.answer stage.call).1
  | _ => True

structure Site where
  group : Group
  /-- The poll interval of the run or the wait in progress. -/
  period : Nat
  point : Point
  /-- What has happened since this run or wait was begun. -/
  history : List (Nat × Event)

/-- Where an update stands when a run or a wait begins. -/
def Begins (period now : Nat) (status : Status) : Prop :=
  status = .calling .survey ∨ ∃ threshold, status = await period now (.wait threshold)

namespace Site

variable {plan : Plan} {may : Group.Change → Prop}

/-- Others make a change that they may make, or something happens to the update. -/
inductive Step (plan : Plan) (may : Group.Change → Prop) : Site → Site → Prop where
  | change {s : Site} {c : Group.Change} (h : may c) :
      Step plan may s { s with group := (s.group.apply c).1 }
  | advance {s : Site} {now : Nat} {event : Event} {q : Point}
      (step : Point.Step plan s.period s.point (now, event) q)
      (comes : event.ComesFrom s.group) :
      Step plan may s
        ⟨s.group.after event, s.period, q, s.history ++ [(now, event)]⟩

theorem Step.mono {may may' : Group.Change → Prop} {s t : Site} (h : Step plan may s t)
    (hmay : ∀ c, may c → may' c) : Step plan may' s t := by
  cases h with
  | change h => exact .change (hmay _ h)
  | advance step comes => exact .advance step comes

theorem Step.wake {group : Group} {period before now : Nat} {stopped : Bool} {aim : Aim}
    {ticker : Ticker} {status : Status} {notes : List Note} {history : List (Nat × Event)}
    (later : before ≤ now) (goes : plan.wake now stopped aim ticker = some ⟨status, notes⟩) :
    Step plan may ⟨group, period, ⟨before, stopped, .waiting aim ticker⟩, history⟩
      ⟨group, period, ⟨now, stopped, status⟩, history ++ [(now, .wake)]⟩ := by
  have hstep : Point.Step plan period ⟨before, stopped, .waiting aim ticker⟩ (now, .wake)
      (Point.mk now stopped (Move.mk status notes).status) := .wake later rfl goes
  exact @advance plan may ⟨group, period, _, history⟩ _ _ _ hstep trivial

theorem Step.reply {group after : Group} {period before now : Nat} {stopped : Bool}
    {stage : Stage} {answer : stage.call.Answer} {status : Status} {history : List (Nat × Event)}
    (later : before ≤ now) (answers : group.answer stage.call = (answer, after))
    (goes : (plan.resume period now stage answer).status = status) :
    Step plan may ⟨group, period, ⟨before, stopped, .calling stage⟩, history⟩
      ⟨after, period, ⟨now, stopped, status⟩, history ++ [(now, .reply stage answer)]⟩ := by
  have hstep : Point.Step plan period ⟨before, stopped, .calling stage⟩
      (now, .reply stage answer) ⟨now, stopped, (plan.resume period now stage answer).status⟩ :=
    .reply later rfl answer
  have hafter : after = group.after (.reply stage answer) := by rw [Group.after, answers]
  rw [hafter, ← goes]
  exact @advance plan may ⟨group, period, _, history⟩ _ _ _ hstep
    (by rw [Event.ComesFrom, answers])

abbrev Steps (plan : Plan) (may : Group.Change → Prop) : Site → Site → Prop :=
  Relation.ReflTransGen (Step plan may)

/-- The sites that arise from a group and an update of it, which may have been told to stop. Each
run or wait may have a clock of its own. -/
inductive Reach (plan : Plan) (may : Group.Change → Prop) (g : Group) : Site → Prop where
  | first {period now : Nat} {stopped : Bool} {status : Status}
      (begins : Begins period now status) :
      Reach plan may g ⟨g, period, ⟨now, stopped, status⟩, []⟩
  | step {s t : Site} (reach : Reach plan may g s) (step : Step plan may s t) :
      Reach plan may g t
  | again {s : Site} (reach : Reach plan may g s) {period now : Nat} {status : Status}
      (begins : Begins period now status) :
      Reach plan may g ⟨s.group, period, ⟨now, s.point.stopped, status⟩, []⟩

theorem stands_of_begins {period now : Nat} {status : Status} (h : Begins period now status) :
    Stands plan [] status := by
  rcases h with rfl | ⟨threshold, rfl⟩
  · rfl
  · exact stands_await period now (.start threshold)

theorem Reach.stands {g : Group} {s : Site} (h : Reach plan may g s) :
    Stands plan (replies s.history) s.point.status := by
  induction h with
  | first begins => exact stands_of_begins begins
  | step _ step ih =>
      cases step with
      | change => exact ih
      | advance step =>
          rw [replies_append]
          exact step.stands ih
  | again _ begins => exact stands_of_begins begins

theorem Reach.steps {g : Group} {s t : Site} (h : Reach plan may g s) (hs : Steps plan may s t) :
    Reach plan may g t := by
  induction hs with
  | refl => exact h
  | tail _ step ih => exact ih.step step

theorem Reach.lineage {g : Group} {s : Site} (h : Reach plan may g s)
    (hg : g.Lineage plan.target.revision) : s.group.Lineage plan.target.revision := by
  induction h with
  | first => exact hg
  | step _ step ih =>
      cases step with
      | @change c _ => exact ih.apply c
      | advance step =>
          cases step with
          | stop | wake => exact ih
          | reply => exact lineage_answer ih _
  | again _ _ ih => exact ih

theorem Steps.course {s t : Site} (h : Steps plan may s t) :
    ∃ later, t.history = s.history ++ later ∧ t.period = s.period ∧
      Course plan s.period s.point later t.point := by
  induction h with
  | refl => exact ⟨[], by simp, rfl, .refl⟩
  | tail _ step ih =>
      obtain ⟨later, hlater, hperiod, hcourse⟩ := ih
      cases step with
      | change => exact ⟨later, hlater, hperiod, hcourse⟩
      | advance step =>
          rw [hperiod] at step
          exact ⟨later ++ [_], by simp [hlater], hperiod, hcourse.snoc step⟩

/-- The first reply since a call was begun comes from the group as it is at that moment, and all
that follows is a course of the update. -/
theorem Steps.reply_of_calling {s t : Site} (h : Steps plan may s t) {stage : Stage}
    (hs : s.point.status = .calling stage) :
    ∃ later, t.history = s.history ++ later ∧
      ((replies later = [] ∧ t.point.status = .calling stage) ∨
        ∃ s' now next after, Steps plan may s s' ∧ s'.point.status = .calling stage ∧
          replies later = ⟨stage.call, (s'.group.answer stage.call).1⟩ :: replies after ∧
          next.status = (plan.resume s.period now stage (s'.group.answer stage.call).1).status ∧
          Course plan s.period next after t.point) ∧ t.period = s.period := by
  -- Until the call is answered only stops and changes by others can happen.
  induction h with
  | refl => exact ⟨[], by simp, .inl ⟨rfl, hs⟩, rfl⟩
  | @tail m t hsm step ih =>
      obtain ⟨later, hlater, hcases, hperiod⟩ := ih
      cases step with
      | change => exact ⟨later, hlater, hcases, hperiod⟩
      | @advance now event q step comes =>
          refine ⟨later ++ [(now, event)], by simp [hlater], ?_, hperiod⟩
          rw [hperiod] at step
          rcases hcases with ⟨hnil, hm⟩ | ⟨s', at', next, after, hs', hcalling, hr, hnext, hcourse⟩
          · cases step with
            | stop => exact .inl ⟨by simpa using hnil, hm⟩
            | wake _ waits => simp [hm] at waits
            | @reply now stage' _ calls answer =>
                obtain rfl : stage = stage' := by simpa [hm] using calls
                obtain rfl : answer = (m.group.answer stage.call).1 := comes
                exact .inr ⟨m, now, _, [], hsm, hm, by simp [hnil], rfl, .refl⟩
          · exact .inr ⟨s', at', next, after ++ [(now, event)], hs', hcalling, by simp [hr], hnext,
              hcourse.snoc step⟩

end Site

end Update

end Rollout
