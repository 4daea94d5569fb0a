import Rollout.Proofs.Course

/-!
# Calls that were begun

An update begins a call when it comes to a stage, and the call is in hand until it is answered. So
the calls that were in hand at some moment, and those begun since, are those answered since and
those in hand now.
-/

namespace Rollout.Update

/-- The call that an update waits for. -/
def Status.inHand : Status → List Stage
  | .calling stage => [stage]
  | _ => []

def Event.stage? : Event → Option Stage
  | .reply stage _ => some stage
  | _ => none

/-- The stages whose calls were answered, in their order. -/
def answered (history : List (Nat × Event)) : List Stage := history.filterMap fun e => e.2.stage?

@[simp] theorem answered_nil : answered [] = [] := rfl

@[simp] theorem answered_append (xs ys : List (Nat × Event)) :
    answered (xs ++ ys) = answered xs ++ answered ys :=
  List.filterMap_append

@[simp] theorem answered_stop (now : Nat) : answered [(now, .stop)] = [] := rfl

@[simp] theorem answered_wake (now : Nat) : answered [(now, .wake)] = [] := rfl

@[simp] theorem answered_reply (now : Nat) (stage : Stage) (answer : stage.call.Answer) :
    answered [(now, .reply stage answer)] = [stage] := rfl

theorem answered_cons_reply (now : Nat) (stage : Stage) (answer : stage.call.Answer)
    (history : List (Nat × Event)) :
    answered ((now, .reply stage answer) :: history) = stage :: answered history := rfl

theorem map_call_answered (history : List (Nat × Event)) :
    (answered history).map Stage.call = (replies history).map Reply.call := by
  induction history with
  | nil => rfl
  | cons e history ih =>
      obtain ⟨now, event⟩ := e
      cases event with
      | stop | wake => exact ih
      | reply stage answer => exact congrArg (stage.call :: ·) ih

/-- The calls begun on the way from one status to another: of those that were in hand or begun,
each is answered by now or in hand. -/
def Begun (before : Status) (history : List (Nat × Event)) (after : Status)
    (begun : List Stage) : Prop :=
  before.inHand ++ begun = answered history ++ after.inHand

variable {plan : Plan} {period : Nat} {p q : Point} {history : List (Nat × Event)}

theorem Begun.refl (status : Status) : Begun status [] status [] :=
  List.append_nil _

/-- Only the end of a wait and an answer can begin a call. -/
def Event.opens : Event → Status → List Stage
  | .stop, _ => []
  | _, after => after.inHand

@[simp] theorem opens_stop (after : Status) : Event.stop.opens after = [] := rfl

@[simp] theorem opens_wake (after : Status) : Event.wake.opens after = after.inHand := rfl

@[simp] theorem opens_reply (stage : Stage) (answer : stage.call.Answer) (after : Status) :
    (Event.reply stage answer).opens after = after.inHand := rfl

theorem Begun.snoc {before : Status} {begun : List Stage} {e : Nat × Event}
    (h : Begun before history p.status begun) (step : Point.Step plan period p e q) :
    Begun before (history ++ [e]) q.status (begun ++ e.2.opens q.status) := by
  unfold Begun at h ⊢
  rw [← List.append_assoc, h, answered_append]
  cases step with
  | stop => simp
  | wake _ waits => simp [waits, Status.inHand]
  | reply _ calls answer => simp [calls, Status.inHand]

theorem Begun.unique {before after : Status} {xs ys : List Stage}
    (hx : Begun before history after xs) (hy : Begun before history after ys) : xs = ys :=
  List.append_cancel_left (hx.trans hy.symm)

theorem Course.exists_begun (h : Course plan period p history q) :
    ∃ begun, Begun p.status history q.status begun := by
  induction h with
  | refl => exact ⟨[], .refl _⟩
  | snoc _ step ih =>
      obtain ⟨begun, hbegun⟩ := ih
      exact ⟨_, hbegun.snoc step⟩

/-- Each call that was begun was in hand at some moment. -/
theorem Course.split_of_begun (h : Course plan period p history q) {stage : Stage} :
    ∀ {begun : List Stage}, Begun p.status history q.status begun → stage ∈ begun →
      ∃ first rest r, history = first ++ rest ∧ Course plan period p first r ∧
        r.status = .calling stage ∧ Course plan period r rest q := by
  induction h with
  | refl =>
      intro begun hbegun hmem
      rw [hbegun.unique (.refl _)] at hmem
      simp at hmem
  | @snoc before m q e hbefore step ih =>
      intro begun hbegun hmem
      obtain ⟨earlier, hearlier⟩ := hbefore.exists_begun
      rw [hbegun.unique (hearlier.snoc step)] at hmem
      rcases List.mem_append.1 hmem with hmem | hmem
      · obtain ⟨first, rest, r, rfl, hfirst, hr, hrest⟩ := ih hearlier hmem
        exact ⟨first, rest ++ [e], r, by simp, hfirst, hr, hrest.snoc step⟩
      · refine ⟨before ++ [e], [], q, by simp, hbefore.snoc step, ?_, .refl⟩
        have hinHand : stage ∈ q.status.inHand := by
          cases step with
          | stop => simp at hmem
          | wake | reply => exact hmem
        cases hq : q.status with
        | waiting aim ticker => simp [hq, Status.inHand] at hinHand
        | calling other => simpa [hq, Status.inHand, eq_comm] using hinHand
        | ended ending => simp [hq, Status.inHand] at hinHand

end Rollout.Update
