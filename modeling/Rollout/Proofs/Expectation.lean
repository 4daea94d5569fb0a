import Rollout.Proofs.Course

/-!
# How many instances a run expects

The number that a run carries along: how many instances should be as wanted by now. Only the first
listing sets it and only a destroy raises it; `expected?_of_resume` says so.
-/

namespace Rollout.Update

/-- How many instances should be as wanted, in the wait of a run. -/
def Aim.expected? : Aim → Option Nat
  | .wait _ => none
  | .replace expected => some expected

/-- How many instances should be as wanted where a run stands, after its first listing. -/
def Status.expected? : Status → Option Nat
  | .waiting aim _ => aim.expected?
  | .calling .survey => none
  | .calling (.poll aim _) => aim.expected?
  | .calling (.probe aim _ _ _ _) => aim.expected?
  | .calling (.choose expected) => some expected
  | .calling (.destroy expected _) => some expected
  | .ended _ => none

variable {plan : Plan} {aim : Aim} {ticker : Ticker} {tally : Tally} {period now e : Nat}

theorem expected?_of_await (h : (await period now aim).expected? = some e) :
    aim.expected? = some e := by
  unfold await at h
  split at h
  · exact h
  · simp [Status.expected?] at h

theorem expected?_of_settle (h : (plan.settle aim ticker tally).status.expected? = some e) :
    aim.expected? = some e := by
  unfold Plan.settle at h
  split at h
  · cases aim with
    | wait threshold => simp [Status.expected?] at h
    | replace expected => exact h
  · exact h

theorem expected?_of_pollOn {rest : List Instance}
    (h : (plan.pollOn aim ticker tally rest).status.expected? = some e) :
    aim.expected? = some e := by
  cases rest with
  | nil => exact expected?_of_settle h
  | cons current rest => exact h

/-- The first listing sets what a run expects, a destroy raises it by one, and no other answer
changes it. -/
theorem expected?_of_resume {stage : Stage} {answer : stage.call.Answer}
    (h : (plan.resume period now stage answer).status.expected? = some e) :
    (∃ snapshot, (⟨stage.call, answer⟩ : Reply) = ⟨.list, .ok snapshot⟩ ∧
        e = (plan.target.wanted snapshot).length) ∨
      (stage.call.kind ≠ .destroy ∧ (Status.calling stage).expected? = some e) ∨
      ∃ expected victim, stage = .destroy expected victim ∧ e = expected + 1 := by
  cases stage with
  | survey =>
      cases answer with
      | error causes => simp [Plan.resume, Move.fail, Status.expected?] at h
      | ok snapshot =>
          have he := Option.some.inj (expected?_of_await h)
          exact .inl ⟨snapshot, rfl, he.symm⟩
  | poll aim ticker =>
      cases answer with
      | error causes => simp [Plan.resume, Move.fail, Status.expected?] at h
      | ok snapshot => exact .inr (.inl ⟨by simp [Call.kind], expected?_of_pollOn h⟩)
  | probe aim ticker tally current rest =>
      refine .inr (.inl ⟨by simp [Call.kind], ?_⟩)
      cases answer with
      | healthy => exact expected?_of_pollOn h
      | unhealthy => simp [Plan.resume, Move.fail, Status.expected?] at h
      | unknown => exact expected?_of_pollOn h
  | choose expected =>
      cases answer with
      | error causes => simp [Plan.resume, Move.fail, Status.expected?] at h
      | ok snapshot =>
          refine .inr (.inl ⟨by simp [Call.kind], ?_⟩)
          simp only [Plan.resume, Plan.proceed] at h
          split at h
          · simp [Status.expected?] at h
          · exact h
  | destroy expected victim =>
      have he := Option.some.inj (expected?_of_await h)
      exact .inr (.inr ⟨expected, victim, rfl, he.symm⟩)

theorem expected?_of_wake {stopped : Bool} {move : Move}
    (hwake : plan.wake now stopped aim ticker = some move)
    (h : move.status.expected? = some e) : aim.expected? = some e := by
  rcases wake_cases hwake with ⟨-, hmove⟩ | ⟨-, -, hmove⟩
  · simp [hmove, Status.expected?] at h
  · rw [hmove] at h
    exact h

end Rollout.Update
