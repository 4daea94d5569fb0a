import Rollout.Proofs.Begun
import Rollout.Proofs.Gating
import Rollout.Proofs.Site
import Rollout.Proofs.Timely

/-!
# Stopping an update

What an update still does after it was told to stop. The call in hand is answered, and a poll in
progress asks on; if this poll ends the wait, one listing and one destroy may follow. `Status.ahead`
are the calls that may still be begun, and `Course.windup` says that nothing else is. A request to
stop is never taken back, so that every later run ends with its first listing.
-/

namespace Rollout.Update

variable {plan : Plan} {period : Nat} {start p q : Point} {history later : List (Nat × Event)}

/-- The kinds of some calls, those after healths left out. -/
def kinds (stages : List Stage) : List Call.Kind :=
  ((stages.map Stage.call).map Call.kind).filter (· ≠ .health)

@[simp] theorem kinds_nil : kinds [] = [] := rfl

@[simp] theorem kinds_append (xs ys : List Stage) : kinds (xs ++ ys) = kinds xs ++ kinds ys := by
  simp [kinds]

/-- What an update that is told to stop may still begin, apart from calls after healths. -/
def Status.ahead : Status → List Call.Kind
  | .calling (.poll ..) => [.list, .destroy]
  | .calling (.probe ..) => [.list, .destroy]
  | .calling (.choose _) => [.destroy]
  | _ => []

theorem Aim.Leads.windup {aim : Aim} {status : Status} (h : aim.Leads status) :
    (kinds status.inHand ++ status.ahead).Sublist [.list, .destroy] ∧
      ∀ aim ticker, .poll aim ticker ∉ status.inHand := by
  cases h with
  | probe | waiting | choose | ended =>
      simp [kinds, Status.inHand, Status.ahead, Call.kind]

theorem Stage.Leads.windup {stage : Stage} {status : Status} (h : stage.Leads status) :
    (kinds status.inHand ++ status.ahead).Sublist (Status.calling stage).ahead ∧
      ∀ aim ticker, .poll aim ticker ∉ status.inHand := by
  cases h with
  | poll ticker goes | probe ticker tally current rest goes => exact goes.windup
  | survey | choose | destroy | ended =>
      simp [kinds, Status.inHand, Status.ahead, Call.kind]

theorem Point.Step.windup {e : Nat × Event} (h : Point.Step plan period p e q)
    (hstopped : p.stopped = true) :
    q.stopped = true ∧ (kinds (e.2.opens q.status) ++ q.status.ahead).Sublist p.status.ahead ∧
      ∀ aim ticker, .poll aim ticker ∉ e.2.opens q.status := by
  cases h with
  | stop => exact ⟨rfl, .refl _, by simp⟩
  | wake _ waits goes =>
      rcases wake_cases goes with ⟨-, hmove⟩ | ⟨hnot, -, -⟩
      · simp [hmove, hstopped, Status.inHand, Status.ahead]
      · simp [hstopped] at hnot
  | reply _ calls answer =>
      rw [calls]
      exact ⟨hstopped, (leads_of_resume ..).windup⟩

theorem Status.ahead_sublist (status : Status) : status.ahead.Sublist [.list, .destroy] := by
  cases status with
  | waiting | ended => simp [ahead]
  | calling stage => cases stage <;> simp [ahead]

/-- What a stopped update begins: no poll, and beyond the healths of a poll in progress no call
that is not ahead of it. -/
theorem Course.windup (h : Course plan period p history q) (hstopped : p.stopped = true) :
    q.stopped = true ∧ ∃ begun, Begun p.status history q.status begun ∧
      (kinds begun ++ q.status.ahead).Sublist p.status.ahead ∧
      ∀ aim ticker, .poll aim ticker ∉ begun := by
  induction h with
  | refl => exact ⟨hstopped, [], .refl _, by simp, by simp⟩
  | snoc _ step ih =>
      obtain ⟨hm, begun, hbegun, hahead, hpoll⟩ := ih
      obtain ⟨hq, hstep, hopens⟩ := step.windup hm
      refine ⟨hq, _, hbegun.snoc step, ?_, ?_⟩
      · rw [kinds_append, List.append_assoc]
        exact (hstep.append_left _).trans hahead
      · intro aim ticker hmem
        rcases List.mem_append.1 hmem with hmem | hmem
        · exact hpoll aim ticker hmem
        · exact hopens aim ticker hmem

/-- After the call in hand, if there is one, a stopped update begins no other. -/
def Status.Last : Status → Prop
  | .calling (.poll ..) => False
  | .calling (.probe ..) => False
  | .calling (.choose _) => False
  | _ => True

theorem Stage.Leads.last {stage : Stage} {status : Status} (h : stage.Leads status)
    (hlast : (Status.calling stage).Last) : status.inHand = [] ∧ status.Last := by
  cases h with
  | poll | probe | choose => exact hlast.elim
  | survey | destroy | ended => exact ⟨rfl, trivial⟩

theorem Course.begun_of_last (h : Course plan period p history q) (hstopped : p.stopped = true)
    (hlast : p.status.Last) : Begun p.status history q.status [] ∧ q.status.Last := by
  induction h with
  | refl => exact ⟨.refl _, hlast⟩
  | snoc before step ih =>
      obtain ⟨hbegun, hm⟩ := ih
      have hopens := hbegun.snoc step
      have hstop := (before.windup hstopped).1
      cases step with
      | stop => exact ⟨hopens, hm⟩
      | wake _ waits goes =>
          rcases wake_cases goes with ⟨-, hmove⟩ | ⟨hnot, -, -⟩
          · rw [hmove] at hopens ⊢
            exact ⟨hopens, trivial⟩
          · simp [hstop] at hnot
      | reply _ calls answer =>
          rw [calls] at hm
          obtain ⟨hnone, hq⟩ := (leads_of_resume plan period _ _ answer).last hm
          rw [opens_reply, hnone] at hopens
          exact ⟨hopens, hq⟩

theorem Course.halts {aim : Aim} {ticker : Ticker} (h : Course plan period p history q)
    (hstopped : p.stopped = true) (waits : p.status = .waiting aim ticker) :
    q.status = p.status ∨ q.status = .ended (.failed .halted) := by
  induction h with
  | refl => exact .inl rfl
  | snoc before step ih =>
      have hstop := (before.windup hstopped).1
      cases step with
      | stop => exact ih
      | wake _ _ goes =>
          rcases wake_cases goes with ⟨-, hmove⟩ | ⟨hnot, -, -⟩
          · exact .inr hmove
          · simp [hstop] at hnot
      | reply _ calls => rcases ih with hm | hm <;> simp [hm, waits] at calls

/-- The calls of a run up to a destroy that follows a stop: those before the stop, answered or in
hand, and those begun since. -/
theorem Begun.calls_eq {before : Status} {begun : List Stage} {expected : Nat} {victim : Instance}
    (h : Begun before later q.status begun)
    (hq : q.status = .calling (.destroy expected victim)) (history : List (Nat × Event)) :
    (answered history ++ before.inHand).map Stage.call ++ begun.map Stage.call =
      (replies (history ++ later)).map Reply.call ++ [.destroy victim .rollingUpdate] := by
  have hstages := congrArg (List.map Stage.call) h
  rw [List.map_append, List.map_append, map_call_answered, hq] at hstages
  rw [List.map_append, map_call_answered, List.append_assoc, hstages, replies_append,
    List.map_append, List.append_assoc]
  rfl

/-- The poll that lets a run destroy an instance after it was told to stop had begun before: it is
among the calls that were answered or in hand by then. -/
theorem Course.poll_of_destroy {now expected : Nat} {victim : Instance}
    (hbefore : Course plan period start history p) (hstart : start.status = .calling .survey)
    (hnow : p.now ≤ now) (hlater : Course plan period ⟨now, true, p.status⟩ later q)
    (hq : q.status = .calling (.destroy expected victim)) :
    ∃ (before : List Reply) (poll : Poll) (choice : List Instance),
      replies (history ++ later) = before ++ poll.replies ++ [⟨.list, .ok choice⟩] ∧
      poll.Clean plan.target ∧ (Aim.replace expected).threshold plan ≤ poll.healthy ∧
      before.length < (answered history ++ p.status.inHand).length := by
  have hwhole := (hbefore.snoc (.stop hnow)).append hlater
  have hstands := hwhole.stands (by rw [hstart]; rfl)
  rw [hq] at hstands
  obtain ⟨_, choice, others, @⟨before, poll, -, clean, enough⟩, -, hcalls⟩ := hstands
  rw [replies_append, replies_append, replies_stop, List.append_nil, ← replies_append] at hcalls
  refine ⟨before, poll, choice, hcalls, clean, enough, ?_⟩
  -- If it had begun after the stop, two listings would have: its own, and the one that follows.
  by_contra hlate
  obtain ⟨-, begun, hbegun, hahead, -⟩ := hlater.windup rfl
  have hlist : (kinds begun).count .list ≤ 1 := by
    have hsub := (List.sublist_append_left _ _).trans (hahead.trans (Status.ahead_sublist _))
    exact hsub.count_le .list
  have hboth := hbegun.calls_eq hq history
  rw [hcalls, List.append_assoc, @List.map_append _ _ _ before, List.append_assoc] at hboth
  have hsuffix : ∃ rest, begun.map Stage.call = rest ++
      ((poll.replies ++ [(⟨.list, .ok choice⟩ : Reply)]).map Reply.call ++
        [.destroy victim .rollingUpdate]) := by
    rcases List.append_eq_append_iff.1 hboth with ⟨rest, -, hrest⟩ | ⟨rest, hrest, hnil⟩
    · exact ⟨rest, hrest⟩
    · have hlength := congrArg List.length hrest
      simp only [List.length_append, List.length_map] at hlength hlate
      obtain rfl : rest = [] := List.eq_nil_of_length_eq_zero (by omega)
      exact ⟨[], hnil.symm⟩
  obtain ⟨rest, hrest⟩ := hsuffix
  rw [kinds, hrest] at hlist
  simp [Poll.replies, Call.kind] at hlist
  omega

/-- What a stop brings about in a run. The run had come to `p` by `history` when it was told to
stop; since then `later` has happened and the calls `begun` were begun, and now it stands at `q`. -/
structure WindsUp (plan : Plan) (period now : Nat) (history : List (Nat × Event)) (p : Point)
    (later : List (Nat × Event)) (q : Point) (begun : List Stage) : Prop where
  no_poll : ∀ aim ticker, .poll aim ticker ∉ begun
  /-- At most one listing, and after it at most one destroy. -/
  once : (kinds begun).Sublist [.list, .destroy]
  /-- A destroy needs a poll with enough healthy instances, which had begun before the stop. -/
  polled : ∀ expected victim, .destroy expected victim ∈ begun →
    ∃ (first rest : List (Nat × Event)) (before : List Reply) (poll : Poll)
      (choice : List Instance) (r : Point), later = first ++ rest ∧
      Course plan period ⟨now, true, p.status⟩ first r ∧
      r.status = .calling (.destroy expected victim) ∧
      replies (history ++ first) = before ++ poll.replies ++ [⟨.list, .ok choice⟩] ∧
      poll.Clean plan.target ∧ (Aim.replace expected).threshold plan ≤ poll.healthy ∧
      before.length < (answered history ++ p.status.inHand).length
  /-- Between two polls the run ends at once. -/
  waiting : ∀ aim ticker, p.status = .waiting aim ticker → begun = [] ∧
    Point.Step plan period ⟨now, true, p.status⟩ (now, .wake)
      ⟨now, true, .ended (.failed .halted)⟩ ∧
    (Timely plan period ⟨now, true, p.status⟩ later q →
      q = ⟨now, true, p.status⟩ ∧ (∀ e ∈ later, e = (now, .stop)) ∨
        q.status = .ended (.failed .halted) ∧ (now, .wake) ∈ later)
  /-- The run ends halted, unless a later answer ends it. -/
  ending : ∀ ending, q.status = .ended ending → ending = .failed .halted ∨
    ∃ before time stage answer after, later = before ++ (time, .reply stage answer) :: after ∧
      replies after = [] ∧ Closes plan stage answer ending

/-- What a stop leaves of a later run or wait, from its beginning `r` to any point `t`: a run lists
the group once, and a wait makes no call. -/
structure Refuses (plan : Plan) (period : Nat) (r : Point) (history : List (Nat × Event))
    (t : Point) : Prop where
  run : r.status = .calling .survey → answered history ++ t.status.inHand = [.survey] ∧
    ∀ ending, t.status = .ended ending → ending = .failed .halted ∨
      ∃ causes, replies history = [⟨.list, .error causes⟩] ∧
        ending = .failed (.snapshot causes)
  wait : ∀ threshold, r.status = await period r.now (.wait threshold) →
    answered history = [] ∧ t.status.inHand = [] ∧
      ∀ ending, t.status = .ended ending → ending = .failed .halted
  /-- Where it would wait it ends at once. -/
  waiting : ∀ aim ticker, t.status = .waiting aim ticker →
    Point.Step plan period t (t.now, .wake) ⟨t.now, true, .ended (.failed .halted)⟩

/-- The beginnings of the runs and waits that may follow one another when an update is left at a
point, each of them told to stop if the one before it was. -/
inductive Later (plan : Plan) (q : Point) : Point → Prop where
  | next {period now : Nat} {status : Status} (begins : Begins period now status) :
      Later plan q ⟨now, q.stopped, status⟩
  | again {period before now : Nat} {status : Status} {r t : Point}
      {history : List (Nat × Event)} (follows : Later plan q r)
      (course : Course plan before r history t) (begins : Begins period now status) :
      Later plan q ⟨now, t.stopped, status⟩

theorem Later.stopped {r : Point} (h : Later plan q r) (hq : q.stopped = true) :
    r.stopped = true := by
  induction h with
  | next => exact hq
  | again _ course _ ih => exact (course.windup ih).1

theorem Course.refuses (h : Course plan period p history q) (hperiod : 0 < period)
    (hstopped : p.stopped = true) : Refuses plan period p history q where
  run := by
    intro hp
    obtain ⟨hbegun, -⟩ := h.begun_of_last hstopped (by rw [hp]; trivial)
    rw [Begun, List.append_nil, hp] at hbegun
    refine ⟨hbegun.symm, ?_⟩
    intro ending hend
    rcases h.closes (.inl hperiod) (by rw [hp]; trivial) (by simp [hp]) hend with
      ⟨hhalted, -⟩ | ⟨before, time, stage, answer, after, rfl, hafter, hcloses⟩
    · exact .inl hhalted
    · rw [hend, answered_append, answered_cons_reply, eq_comm] at hbegun
      have hone : answered before ++ stage :: answered after = [.survey] := by
        simpa [Status.inHand] using hbegun
      obtain ⟨hnone, hstage⟩ : answered before = [] ∧ stage = .survey := by
        rcases List.append_eq_singleton_iff.1 hone with ⟨hnone, hcons⟩ | ⟨-, hnil⟩
        · exact ⟨hnone, (List.cons.inj hcons).1⟩
        · simp at hnil
      have hreplies := map_call_answered before
      rw [hnone, List.map_nil, eq_comm, List.map_eq_nil_iff] at hreplies
      subst hstage
      cases hcloses with
      | survey causes =>
          refine .inr ⟨causes, ?_, rfl⟩
          rw [replies_append, replies_cons_reply, hreplies, hafter, List.nil_append]
  wait := by
    intro threshold hp
    have hwaits : p.status = .waiting (.wait threshold) (.start period p.now hperiod) := by
      rw [hp, await, dif_pos hperiod]
    obtain ⟨hbegun, -⟩ := h.begun_of_last hstopped (by rw [hwaits]; trivial)
    rw [Begun, List.append_nil, hwaits] at hbegun
    obtain ⟨hanswered, hinHand⟩ := List.append_eq_nil_iff.1 hbegun.symm
    refine ⟨hanswered, hinHand, ?_⟩
    intro ending hend
    rcases h.halts hstopped hwaits with hsame | hhalted
    · simp [hend, hwaits] at hsame
    · rw [hend] at hhalted
      exact Status.ended.inj hhalted
  waiting := by
    intro aim ticker hwaits
    exact .halt (Nat.le_refl _) (h.windup hstopped).1 hwaits

/-- A run that is told to stop, at whatever moment and over whatever backend, winds up; and every
later run and wait of the update is refused, however often it is told to stop again. -/
theorem stop_winds_up {now : Nat} (hperiod : 0 < period)
    (hstart : start.status = .calling .survey) (hbefore : Course plan period start history p)
    (hlive : ∀ ending, p.status ≠ .ended ending) (hnow : p.now ≤ now)
    (hlater : Course plan period ⟨now, true, p.status⟩ later q) :
    (∃ begun, Begun p.status later q.status begun ∧
      WindsUp plan period now history p later q begun) ∧
    ∀ r, Later plan q r → r.stopped = true ∧ ∀ (period' : Nat) (history' : List (Nat × Event))
      (t : Point), 0 < period' → Course plan period' r history' t →
        Refuses plan period' r history' t := by
  have hrun : p.status.OfRun := hbefore.ofRun (by rw [hstart]; trivial)
  obtain ⟨hq, begun, hbegun, hahead, hpoll⟩ := hlater.windup rfl
  refine ⟨⟨begun, hbegun, hpoll, ?_, ?_, ?_, ?_⟩, ?_⟩
  · exact (List.sublist_append_left _ _).trans (hahead.trans (Status.ahead_sublist _))
  · intro expected victim hmem
    obtain ⟨first, rest, r, hsplit, hfirst, hr, -⟩ := hlater.split_of_begun hbegun hmem
    obtain ⟨before, poll, choice, hcalls, clean, enough, hearly⟩ :=
      hbefore.poll_of_destroy hstart hnow hfirst hr
    exact ⟨first, rest, before, poll, choice, r, hsplit, hfirst, hr, hcalls, clean, enough, hearly⟩
  · intro aim ticker hwaits
    have hlast := hlater.begun_of_last rfl (by simp only [hwaits]; trivial)
    refine ⟨hbegun.unique hlast.1, ?_, fun htimely => htimely.halts rfl hwaits⟩
    exact @Point.Step.halt plan period ⟨now, true, p.status⟩ _ _ _ (Nat.le_refl now) rfl hwaits
  · intro ending hend
    exact (hlater.closes (.inl hperiod) hrun (hlive ending) hend).imp_left And.left
  · intro r hr
    have hstopped := hr.stopped hq
    exact ⟨hstopped, fun period' history' t hperiod' h => h.refuses hperiod' hstopped⟩

open Sample in
/-- A run is told to stop in its first poll. The poll finds as many healthy instances as it needs,
so that one more is destroyed, and the next wait ends the run. A run after that ends too. -/
theorem stop_winds_up_polling :
    ∃ (history later : List (Nat × Event)) (p q : Point),
      p.status = .calling (.poll (.replace 0) (ticker 20)) ∧
      q.status = .ended (.failed .halted) ∧
      WindsUp Sample.plan 10 10 history p later q [.choose 0, .destroy 0 (old "a")] ∧
      Refuses Sample.plan 10 ⟨0, true, .calling .survey⟩ [(0, .reply .survey (.ok []))]
        ⟨0, true, .waiting (.replace 0) (ticker 10)⟩ := by
  have h : Course Sample.plan 10 ⟨0, false, .calling .survey⟩ _ _ :=
    Course.refl.reply (Nat.le_refl 0) .survey (.ok [old "a", old "b"]) rfl rfl
  have hbefore : Course _ _ _ _ ⟨10, false, .calling (.poll (.replace 0) (ticker 20))⟩ :=
    h.wake (Nat.zero_le 10) (.replace 0) (ticker 10) rfl rfl
  have h : Course Sample.plan 10 ⟨10, true, .calling (.poll (.replace 0) (ticker 20))⟩ _
      ⟨10, true, .calling (.choose 0)⟩ :=
    Course.refl.reply (Nat.le_refl 10) (.poll _ _) (.ok [old "a", old "b"]) rfl rfl
  have h : Course _ _ _ _ ⟨11, true, .calling (.destroy 0 (old "a"))⟩ :=
    h.reply (by decide) (.choose 0) (.ok [old "a", old "b"]) rfl
      (status_proceed (Settings.destroyOrder_eq_self (by decide)))
  have h : Course _ _ _ _ ⟨12, true, .waiting (.replace 1) (ticker 22)⟩ :=
    h.reply (by decide) (.destroy _ _) () rfl rfl
  have h : Course _ _ _ _ ⟨12, true, .waiting (.replace 1) (ticker 22)⟩ :=
    h.snoc (.stop (Nat.le_refl 12))
  have hlater : Course _ _ _ _ ⟨12, true, .ended (.failed .halted)⟩ :=
    h.wake (Nat.le_refl 12) _ _ rfl rfl
  have hagain : Course Sample.plan 10 ⟨0, true, .calling .survey⟩ _
      ⟨0, true, .waiting (.replace 0) (ticker 10)⟩ :=
    Course.refl.reply (Nat.le_refl 0) .survey (.ok []) rfl rfl
  obtain ⟨⟨begun, hbegun, hwinds⟩, hrefuses⟩ :=
    stop_winds_up (by decide) rfl hbefore (by simp) (Nat.le_refl 10) hlater
  have hlast := hrefuses _ (@Later.next _ _ 10 0 _ (.inl rfl))
  obtain rfl : begun = [.choose 0, .destroy 0 (old "a")] := hbegun.unique rfl
  exact ⟨_, _, _, _, rfl, rfl, hwinds, hlast.2 10 _ _ (by decide) hagain⟩

end Rollout.Update
