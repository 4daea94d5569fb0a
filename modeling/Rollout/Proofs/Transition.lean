import Rollout.Proofs.Course
import Rollout.Proofs.DestroyOrder

/-!
# Where the answer to a call leads

`leads_of_resume` says where an update may stand after the answer to each kind of call, whatever
the answer is, and `closes_of_resume` which answers end a run. What a course keeps follows from
these two: the request to stop stays, a run waits for nothing but its own replacements, and where a
run has ended by itself its last call has ended it.
-/

namespace Rollout.Update

/-- Where an answer leads in a poll. -/
inductive Aim.Leads (aim : Aim) : Status → Prop where
  | probe (ticker : Ticker) (tally : Tally) (current : Instance) (rest : List Instance) :
      Leads aim (.calling (.probe aim ticker tally current rest))
  | waiting (ticker : Ticker) : Leads aim (.waiting aim ticker)
  | choose (expected : Nat) (replaces : aim = .replace expected) :
      Leads aim (.calling (.choose expected))
  | ended (ending : Ending) : Leads aim (.ended ending)

inductive Stage.Leads : Stage → Status → Prop where
  | survey (expected : Nat) (ticker : Ticker) :
      Leads .survey (.waiting (.replace expected) ticker)
  | poll {aim : Aim} {status : Status} (ticker : Ticker) (goes : aim.Leads status) :
      Leads (.poll aim ticker) status
  | probe {aim : Aim} {status : Status} (ticker : Ticker) (tally : Tally) (current : Instance)
      (rest : List Instance) (goes : aim.Leads status) :
      Leads (.probe aim ticker tally current rest) status
  | choose (expected : Nat) (victim : Instance) :
      Leads (.choose expected) (.calling (.destroy expected victim))
  | destroy (expected : Nat) (victim : Instance) (ticker : Ticker) :
      Leads (.destroy expected victim) (.waiting (.replace (expected + 1)) ticker)
  | ended (stage : Stage) (ending : Ending) : Leads stage (.ended ending)

variable {plan : Plan} {period : Nat} {start p q : Point} {history : List (Nat × Event)}

theorem leads_of_settle (plan : Plan) (aim : Aim) (ticker : Ticker) (tally : Tally) :
    aim.Leads (plan.settle aim ticker tally).status := by
  unfold Plan.settle
  split
  · cases aim with
    | wait threshold => exact .ended .done
    | replace expected => exact .choose expected rfl
  · exact .waiting ticker

theorem leads_of_pollOn (plan : Plan) (aim : Aim) (ticker : Ticker) (tally : Tally)
    (rest : List Instance) : aim.Leads (plan.pollOn aim ticker tally rest).status := by
  cases rest with
  | nil => exact leads_of_settle ..
  | cons current rest => exact .probe ticker tally current rest

theorem leads_of_resume (plan : Plan) (period now : Nat) (stage : Stage)
    (answer : stage.call.Answer) : stage.Leads (plan.resume period now stage answer).status := by
  cases stage with
  | survey =>
      cases answer with
      | error causes => exact .ended _ _
      | ok snapshot =>
          simp only [Plan.resume, await]
          split
          · exact .survey _ _
          · exact .ended _ _
  | poll aim ticker =>
      cases answer with
      | error causes => exact .ended _ _
      | ok snapshot => exact .poll ticker (leads_of_pollOn ..)
  | probe aim ticker tally current rest =>
      cases answer with
      | unhealthy => exact .ended _ _
      | healthy | unknown => exact .probe ticker tally current rest (leads_of_pollOn ..)
  | choose expected =>
      cases answer with
      | error causes => exact .ended _ _
      | ok snapshot =>
          simp only [Plan.resume, Plan.proceed]
          split
          · exact .ended _ _
          · exact .choose expected _
  | destroy expected victim =>
      simp only [Plan.resume, await]
      split
      · exact .destroy expected victim _
      · exact .ended _ _

/-! ## Ends of runs -/

/-- An update does not stand in a wait by itself. -/
def Status.OfRun : Status → Prop
  | .waiting aim _ => ∃ expected, aim = .replace expected
  | .calling (.poll aim _) => ∃ expected, aim = .replace expected
  | .calling (.probe aim _ _ _ _) => ∃ expected, aim = .replace expected
  | _ => True

theorem Aim.Leads.ofRun {expected : Nat} {status : Status}
    (h : (Aim.replace expected).Leads status) : status.OfRun := by
  cases h with
  | probe | waiting => exact ⟨expected, rfl⟩
  | choose | ended => trivial

theorem Stage.Leads.ofRun {stage : Stage} {status : Status} (h : stage.Leads status)
    (hs : (Status.calling stage).OfRun) : status.OfRun := by
  cases h with
  | survey expected ticker => exact ⟨expected, rfl⟩
  | poll ticker goes =>
      obtain ⟨expected, rfl⟩ := hs
      exact goes.ofRun
  | probe ticker tally current rest goes =>
      obtain ⟨expected, rfl⟩ := hs
      exact goes.ofRun
  | destroy expected victim ticker => exact ⟨expected + 1, rfl⟩
  | choose | ended => trivial

theorem Point.Step.ofRun {e : Nat × Event} (h : Point.Step plan period p e q)
    (hp : p.status.OfRun) : q.status.OfRun := by
  cases h with
  | stop => exact hp
  | wake _ waits goes =>
      rw [waits] at hp
      rcases wake_cases goes with ⟨-, hmove⟩ | ⟨-, -, hmove⟩
      · rw [hmove]
        trivial
      · rw [hmove]
        exact hp
  | reply _ calls answer =>
      rw [calls] at hp
      exact (leads_of_resume ..).ofRun hp

theorem Course.ofRun (h : Course plan period start history p) (hs : start.status.OfRun) :
    p.status.OfRun := by
  induction h with
  | refl => exact hs
  | snoc _ step ih => exact step.ofRun ih

/-- The answers to calls of a run that end it, and how. -/
inductive Closes (plan : Plan) : (stage : Stage) → stage.call.Answer → Ending → Prop where
  | survey (causes : List String) :
      Closes plan .survey (.error causes) (.failed (.snapshot causes))
  | poll (aim : Aim) (ticker : Ticker) (causes : List String) :
      Closes plan (.poll aim ticker) (.error causes) (.failed (.snapshot causes))
  | probe (aim : Aim) (ticker : Ticker) (tally : Tally) (current : Instance)
      (rest : List Instance) :
      Closes plan (.probe aim ticker tally current rest) .unhealthy
        (.failed (.unhealthy current.id))
  | choose (expected : Nat) (causes : List String) :
      Closes plan (.choose expected) (.error causes) (.failed (.snapshot causes))
  | nothing_left (expected : Nat) (snapshot : List Instance)
      (none_unwanted : plan.target.unwanted snapshot = []) :
      Closes plan (.choose expected) (.ok snapshot) .done

theorem await_ne_ended {ending : Ending} (hperiod : 0 < period ∨ ending ≠ .noPeriod) (now : Nat)
    (aim : Aim) : await period now aim ≠ .ended ending := by
  unfold await
  split
  · simp
  · rename_i hzero
    intro h
    exact (hperiod.resolve_left hzero) (Status.ended.inj h).symm

theorem settle_replace_ne_ended (plan : Plan) (expected : Nat) (ticker : Ticker) (tally : Tally)
    (ending : Ending) :
    (plan.settle (.replace expected) ticker tally).status ≠ .ended ending := by
  unfold Plan.settle
  split <;> simp

theorem pollOn_replace_ne_ended (plan : Plan) (expected : Nat) (ticker : Ticker) (tally : Tally)
    (rest : List Instance) (ending : Ending) :
    (plan.pollOn (.replace expected) ticker tally rest).status ≠ .ended ending := by
  cases rest with
  | nil => exact settle_replace_ne_ended plan expected ticker tally ending
  | cons current rest => simp [Plan.pollOn]

theorem closes_of_resume {now : Nat} {stage : Stage} {answer : stage.call.Answer}
    {ending : Ending} (hperiod : 0 < period ∨ ending ≠ .noPeriod)
    (hrun : (Status.calling stage).OfRun)
    (h : (plan.resume period now stage answer).status = .ended ending) :
    Closes plan stage answer ending := by
  cases stage with
  | survey =>
      cases answer with
      | error causes =>
          obtain rfl := Status.ended.inj h
          exact .survey causes
      | ok snapshot => exact absurd h (await_ne_ended hperiod _ _)
  | poll aim ticker =>
      obtain ⟨expected, rfl⟩ := hrun
      cases answer with
      | error causes =>
          obtain rfl := Status.ended.inj h
          exact .poll _ ticker causes
      | ok snapshot => exact (pollOn_replace_ne_ended _ _ _ _ _ _ h).elim
  | probe aim ticker tally current rest =>
      obtain ⟨expected, rfl⟩ := hrun
      cases answer with
      | unhealthy =>
          obtain rfl := Status.ended.inj h
          exact .probe _ ticker tally current rest
      | healthy | unknown => exact (pollOn_replace_ne_ended _ _ _ _ _ _ h).elim
  | choose expected =>
      cases answer with
      | error causes =>
          obtain rfl := Status.ended.inj h
          exact .choose expected causes
      | ok snapshot =>
          simp only [Plan.resume, Plan.proceed] at h
          split at h
          · rename_i hnil
            obtain rfl := Status.ended.inj h
            exact .nothing_left expected snapshot (Settings.destroyOrder_eq_nil_iff.1 hnil)
          · simp at h
  | destroy expected victim => exact absurd h (await_ne_ended hperiod _ _)

/-- Where a run has ended, either it was told to stop, or its last call has ended it. -/
theorem Course.closes {ending : Ending} (h : Course plan period start history p)
    (hperiod : 0 < period ∨ ending ≠ .noPeriod) (hrun : start.status.OfRun)
    (hlive : start.status ≠ .ended ending) (hend : p.status = .ended ending) :
    (ending = .failed .halted ∧ p.stopped = true) ∨
      ∃ before time stage answer after, history = before ++ (time, .reply stage answer) :: after ∧
        replies after = [] ∧ Closes plan stage answer ending := by
  induction h with
  | refl => exact absurd hend hlive
  | @snoc before m q e hbefore step ih =>
      cases step with
      | @stop now _ =>
          rcases ih hend with ⟨hhalted, -⟩ | ⟨earlier, time, stage, answer, after, rfl, hafter, h⟩
          · exact .inl ⟨hhalted, rfl⟩
          · exact .inr ⟨earlier, time, stage, answer, after ++ [(now, .stop)], by simp,
              by simp [hafter], h⟩
      | wake _ waits goes =>
          rcases wake_cases goes with ⟨hstopped, hmove⟩ | ⟨-, -, hmove⟩
          · rw [hmove] at hend
            exact .inl ⟨(Status.ended.inj hend).symm, hstopped⟩
          · simp [hmove] at hend
      | @reply now stage _ calls answer =>
          have hstage : (Status.calling stage).OfRun := calls ▸ hbefore.ofRun hrun
          exact .inr ⟨before, now, stage, answer, [], rfl, rfl,
            closes_of_resume hperiod hstage hend⟩

end Rollout.Update
