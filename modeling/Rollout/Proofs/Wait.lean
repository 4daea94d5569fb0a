import Rollout.Proofs.Begun
import Rollout.Proofs.Gating
import Rollout.Proofs.Timely

/-!
# The end of a wait

A wait polls until a poll decides it: the group cannot be listed, an instance that is to stay is
unhealthy, or enough of them are healthy. `Course.standing` says where a wait can stand after polls
that left it open; `Course.ended_of_decides` that it goes no further than the first poll that
decides it.
-/

namespace Rollout.Update

/-- The replies of a poll that ends a wait, and how it ends. -/
inductive Decides (target : Settings) (threshold : Nat) : List Reply → Ending → Prop where
  | unlisted (causes : List String) :
      Decides target threshold [⟨.list, .error causes⟩] (.failed (.snapshot causes))
  | unhealthy {poll : Poll} {current : Instance} {rest : List Instance}
      (asking : poll.Asking target (current :: rest)) :
      Decides target threshold (poll.ask current .unhealthy).replies
        (.failed (.unhealthy current.id))
  | enough {poll : Poll} (clean : poll.Clean target) (met : threshold ≤ poll.healthy) :
      Decides target threshold poll.replies .done

/-- Polls that left a wait open: every instance that is to stay was asked after, none is unhealthy
and too few are healthy. -/
def Undecided (target : Settings) (threshold : Nat) (polls : List Poll) : Prop :=
  ∀ poll ∈ polls, poll.Clean target ∧ poll.healthy < threshold

def Event.isStop : Event → Bool
  | .stop => true
  | _ => false

/-- An update was told to stop, at the latest by the end of a history. -/
def requested (start : Point) (history : List (Nat × Event)) : Bool :=
  start.stopped || history.any fun e => e.2.isStop

/-- A poll has begun after other polls, when the update was not yet told to stop; these are its
replies so far. -/
def Underway (start : Point) (polls : List Poll) (history : List (Nat × Event))
    (calls : List Reply) : Prop :=
  ∃ earlier time since, history = earlier ++ (time, .wake) :: since ∧
    requested start earlier = false ∧ replies earlier = polls.flatMap Poll.replies ∧
    replies since = calls

/-- An update that was told to stop has gone on after some polls, and has made no more calls. -/
def Halted (start : Point) (polls : List Poll) (history : List (Nat × Event)) : Prop :=
  ∃ earlier time since, history = earlier ++ (time, .wake) :: since ∧
    requested start earlier = true ∧ replies earlier = polls.flatMap Poll.replies ∧
    replies since = []

/-- Where a wait stands after polls that left it open. -/
def Standing (target : Settings) (threshold : Nat) (start : Point) (polls : List Poll)
    (history : List (Nat × Event)) : Status → Prop
  | .waiting aim _ => aim = .wait threshold ∧ replies history = polls.flatMap Poll.replies
  | .calling (.poll aim _) => aim = .wait threshold ∧ Underway start polls history []
  | .calling (.probe aim _ tally current rest) => aim = .wait threshold ∧
    ∃ poll : Poll, Underway start polls history poll.replies ∧
      poll.Asking target (current :: rest) ∧ tally.healthy = poll.healthy
  | .ended (.failed .halted) => Halted start polls history
  | .ended ending =>
    ∃ last, Decides target threshold last ending ∧ Underway start polls history last
  | _ => False

variable {plan : Plan} {period threshold : Nat} {start p q : Point} {polls : List Poll}
  {history : List (Nat × Event)} {calls : List Reply} {target : Settings}

theorem Course.stopped_eq_requested (h : Course plan period start history p) :
    p.stopped = requested start history := by
  induction h with
  | refl => simp [requested]
  | snoc _ step ih =>
      cases step with
      | stop => simp [requested, Event.isStop]
      | wake | reply => simpa [requested, Event.isStop] using ih

theorem Underway.snoc (h : Underway start polls history calls) (e : Nat × Event) :
    Underway start polls (history ++ [e]) (calls ++ replies [e]) := by
  obtain ⟨earlier, time, since, rfl, hrequested, hpolls, rfl⟩ := h
  exact ⟨earlier, time, since ++ [e], by simp, hrequested, hpolls, replies_append since [e]⟩

theorem Underway.replies_eq (h : Underway start polls history calls) :
    replies history = polls.flatMap Poll.replies ++ calls := by
  obtain ⟨earlier, time, since, rfl, -, hpolls, rfl⟩ := h
  rw [replies_append, hpolls]
  rfl

theorem Halted.stop (h : Halted start polls history) (now : Nat) :
    Halted start polls (history ++ [(now, .stop)]) := by
  obtain ⟨earlier, time, since, rfl, hrequested, hpolls, hnone⟩ := h
  exact ⟨earlier, time, since ++ [(now, .stop)], by simp, hrequested, hpolls, by simp [hnone]⟩

theorem Standing.stop {status : Status}
    (h : Standing target threshold start polls history status) (now : Nat) :
    Standing target threshold start polls (history ++ [(now, .stop)]) status := by
  have hsnoc (calls : List Reply) (h : Underway start polls history calls) :
      Underway start polls (history ++ [(now, .stop)]) calls := by
    simpa using h.snoc (now, .stop)
  cases status with
  | waiting aim ticker => exact ⟨h.1, by simpa using h.2⟩
  | calling stage =>
      cases stage with
      | survey | choose | destroy => exact h.elim
      | poll aim ticker => exact ⟨h.1, hsnoc _ h.2⟩
      | probe aim ticker tally current rest =>
          obtain ⟨haim, poll, hunderway, hasking, htally⟩ := h
          exact ⟨haim, poll, hsnoc _ hunderway, hasking, htally⟩
  | ended ending =>
      cases ending with
      | failed fault =>
          cases fault with
          | halted => exact Halted.stop h now
          | snapshot | unhealthy =>
              obtain ⟨last, hdecides, hunderway⟩ := h
              exact ⟨last, hdecides, hsnoc _ hunderway⟩
      | done | noPeriod =>
          obtain ⟨last, hdecides, hunderway⟩ := h
          exact ⟨last, hdecides, hsnoc _ hunderway⟩

/-- A poll goes on, or it decides the wait, or it is one more that leaves it open. -/
theorem standing_pollOn {poll : Poll} {tally : Tally} {rest : List Instance}
    (hpolls : Undecided plan.target threshold polls)
    (hunderway : Underway start polls history poll.replies)
    (hasking : poll.Asking plan.target rest) (htally : tally.healthy = poll.healthy)
    (ticker : Ticker) :
    ∃ polls', Undecided plan.target threshold polls' ∧
      Standing plan.target threshold start polls' history
        (plan.pollOn (.wait threshold) ticker tally rest).status := by
  cases rest with
  | cons current rest => exact ⟨polls, hpolls, rfl, poll, hunderway, hasking, htally⟩
  | nil =>
      have hclean := hasking.clean
      unfold Plan.pollOn Plan.settle
      by_cases hmet : (Aim.wait threshold).threshold plan ≤ tally.healthy
      · rw [if_pos hmet]
        exact ⟨polls, hpolls, poll.replies, .enough hclean (htally ▸ hmet), hunderway⟩
      · rw [if_neg hmet]
        refine ⟨polls ++ [poll], ?_, rfl, ?_⟩
        · have hpoll : poll.Clean plan.target ∧ poll.healthy < threshold :=
            ⟨hclean, htally ▸ Nat.lt_of_not_le hmet⟩
          exact List.forall_mem_append.2 ⟨hpolls, List.forall_mem_singleton.2 hpoll⟩
        · rw [hunderway.replies_eq]
          simp

theorem Standing.wake {now : Nat} {stopped : Bool} {aim : Aim} {ticker : Ticker} {move : Move}
    (h : Standing target threshold start polls history (.waiting aim ticker))
    (hstopped : stopped = requested start history)
    (goes : plan.wake now stopped aim ticker = some move) :
    Standing target threshold start polls (history ++ [(now, .wake)]) move.status := by
  obtain ⟨haim, hreplies⟩ := h
  rcases wake_cases goes with ⟨hstop, hmove⟩ | ⟨hgo, -, hmove⟩
  · rw [hmove]
    exact ⟨history, now, [], rfl, by rw [← hstopped, hstop], hreplies, rfl⟩
  · rw [hmove]
    exact ⟨haim, history, now, [], rfl, by rw [← hstopped, hgo], hreplies, rfl⟩

theorem standing_of_answer {poll : Poll} {tally tally' : Tally} {current : Instance}
    {rest : List Instance} {answer : Health} (now : Nat) (ticker ticker' : Ticker)
    (hpolls : Undecided plan.target threshold polls)
    (hunderway : Underway start polls history poll.replies)
    (hasking : poll.Asking plan.target (current :: rest)) (ha : answer ≠ .unhealthy)
    (htally : tally'.healthy = (poll.ask current answer).healthy) :
    ∃ polls', Undecided plan.target threshold polls' ∧
      Standing plan.target threshold start polls'
        (history ++ [(now, .reply (.probe (.wait threshold) ticker tally current rest) answer)])
        (plan.pollOn (.wait threshold) ticker' tally' rest).status := by
  refine standing_pollOn hpolls ?_ (hasking.ask ha) htally ticker'
  rw [Poll.replies_ask]
  exact hunderway.snoc _

theorem Standing.reply {stage : Stage} (now : Nat)
    (hpolls : Undecided plan.target threshold polls)
    (h : Standing plan.target threshold start polls history (.calling stage))
    (answer : stage.call.Answer) :
    ∃ polls', Undecided plan.target threshold polls' ∧
      Standing plan.target threshold start polls' (history ++ [(now, .reply stage answer)])
        (plan.resume period now stage answer).status := by
  cases stage with
  | survey | choose | destroy => exact h.elim
  | poll aim ticker =>
      obtain ⟨rfl, hunderway⟩ := h
      have hlisted := hunderway.snoc (now, .reply (.poll (.wait threshold) ticker) answer)
      cases answer with
      | error causes => exact ⟨polls, hpolls, _, .unlisted causes, hlisted⟩
      | ok snapshot =>
          exact standing_pollOn hpolls hlisted (.begin plan.target snapshot) rfl ticker
  | probe aim ticker tally current rest =>
      obtain ⟨rfl, poll, hunderway, hasking, htally⟩ := h
      cases answer with
      | unhealthy =>
          refine ⟨polls, hpolls, _, .unhealthy hasking, ?_⟩
          rw [Poll.replies_ask]
          exact hunderway.snoc _
      | healthy =>
          refine standing_of_answer now _ _ hpolls hunderway hasking (by decide) ?_
          rw [Poll.healthy_ask, ← htally]
          rfl
      | unknown =>
          refine standing_of_answer now _ _ hpolls hunderway hasking (by decide) ?_
          rw [Poll.healthy_ask, ← htally]
          rfl

/-- Every course of a wait is some polls that left it open, and at most one poll after them. -/
theorem Course.standing (h : Course plan period start history p) (hperiod : 0 < period)
    (hstart : start.status = await period start.now (.wait threshold)) :
    ∃ polls, Undecided plan.target threshold polls ∧
      Standing plan.target threshold start polls history p.status := by
  induction h with
  | refl =>
      rw [hstart, await, dif_pos hperiod]
      exact ⟨[], by simp [Undecided], rfl, rfl⟩
  | snoc before step ih =>
      obtain ⟨polls, hpolls, hstanding⟩ := ih
      cases step with
      | stop => exact ⟨polls, hpolls, hstanding.stop _⟩
      | wake _ waits goes =>
          rw [waits] at hstanding
          exact ⟨polls, hpolls, hstanding.wake before.stopped_eq_requested goes⟩
      | reply _ calls answer =>
          rw [calls] at hstanding
          exact hstanding.reply _ hpolls answer

/-! ## The poll that decides -/

theorem Course.ended_of_enough {ticker : Ticker} {tally : Tally}
    (h : Course plan period p history q)
    (hp : p.status = (plan.pollOn (.wait threshold) ticker tally []).status)
    (hmet : threshold ≤ tally.healthy) : q.status = .ended .done := by
  apply h.ended
  rw [hp]
  unfold Plan.pollOn Plan.settle
  rw [if_pos (show (Aim.wait threshold).threshold plan ≤ tally.healthy from hmet)]

theorem Course.ended_of_unhealthy {ticker : Ticker} {tally : Tally} {current : Instance}
    {rest : List Instance} (h : Course plan period p history q)
    (hp : p.status = (plan.pollOn (.wait threshold) ticker tally (current :: rest)).status)
    (hreplies : replies history = [⟨.health current, .unhealthy⟩]) :
    q.status = .ended (.failed (.unhealthy current.id)) := by
  rcases h.replies_of_calling hp with ⟨hnil, -⟩ | ⟨now, answer, next, after, hcons, hnext, hafter⟩
  · simp [hnil] at hreplies
  · rw [hcons, List.cons.injEq] at hreplies
    obtain rfl : answer = .unhealthy := by simpa using hreplies.1
    exact hafter.ended hnext

theorem Course.ended_of_decides {ticker : Ticker} {ending : Ending}
    (h : Course plan period p history q)
    (hp : p.status = .calling (.poll (.wait threshold) ticker))
    (hdecides : Decides plan.target threshold (replies history) ending) :
    q.status = .ended ending := by
  have hcases := h.replies_of_calling hp
  generalize hcalls : replies history = calls at hdecides hcases
  rcases hcases with ⟨rfl, -⟩ | ⟨now, answer, next, after, rfl, hnext, hafter⟩
  · cases hdecides
  -- The first reply is the listing, so that what is left are the answers of the instances.
  have hlisted {poll : Poll} {more : List Reply}
      (hcons : ⟨.list, answer⟩ :: replies after = poll.replies ++ more) :
      next.status = (plan.pollOn (.wait threshold) ticker {}
          (plan.target.wanted poll.snapshot)).status ∧
        replies after = poll.asked.map (fun a => ⟨.health a.1, a.2⟩) ++ more := by
    rw [Poll.replies, List.cons_append, List.cons.injEq] at hcons
    obtain rfl : answer = .ok poll.snapshot := by simpa using hcons.1
    exact ⟨hnext, hcons.2⟩
  generalize hwhole : (⟨.list, answer⟩ :: replies after : List Reply) = whole at hdecides
  cases hdecides with
  | unlisted causes =>
      obtain rfl : answer = .error causes := by simpa using (List.cons.inj hwhole).1
      exact hafter.ended hnext
  | @unhealthy poll current rest asking =>
      rw [Poll.replies_ask] at hwhole
      obtain ⟨hbegun, hreplies⟩ := hlisted hwhole
      rw [asking.wanted_eq] at hbegun
      obtain ⟨p', tally, later, hcourse, hp', hlast, -⟩ :=
        hafter.asked_on asking.not_unhealthy hbegun hreplies
      exact hcourse.ended_of_unhealthy hp' hlast
  | @enough poll clean met =>
      obtain ⟨hbegun, hreplies⟩ := hlisted (hwhole.trans (List.append_nil _).symm)
      rw [← clean.asked_eq, ← List.append_nil (poll.asked.map Prod.fst)] at hbegun
      obtain ⟨p', tally, later, hcourse, hp', -, htally⟩ :=
        hafter.asked_on clean.not_unhealthy hbegun hreplies
      refine hcourse.ended_of_enough hp' (met.trans ?_)
      rw [htally, Nat.zero_add]
      exact Nat.le_refl _

theorem Course.status_of_wake {earlier since : List (Nat × Event)} {time : Nat}
    (h : Course plan period start (earlier ++ (time, .wake) :: since) q) (hperiod : 0 < period)
    (hstart : start.status = await period start.now (.wait threshold)) :
    ∃ (r : Point), Course plan period r since q ∧
      if requested start earlier then r.status = .ended (.failed .halted)
      else ∃ ticker, r.status = .calling (.poll (.wait threshold) ticker) := by
  rw [List.append_cons] at h
  obtain ⟨r, hr, hsince⟩ := h.exists_of_append
  obtain ⟨p, hp, hstep⟩ := hr.exists_of_concat
  refine ⟨r, hsince, ?_⟩
  cases hstep with
  | @wake _ aim ticker move _ waits goes =>
      obtain ⟨_, -, hstanding⟩ := hp.standing hperiod hstart
      rw [waits] at hstanding
      obtain rfl : aim = .wait threshold := hstanding.1
      rw [← hp.stopped_eq_requested]
      rcases wake_cases goes with ⟨hstopped, hmove⟩ | ⟨hstopped, -, hmove⟩
      · rw [if_pos hstopped]
        exact hmove
      · rw [hstopped, if_neg Bool.false_ne_true]
        exact ⟨_, hmove⟩

/-- What a wait does by the time at which it stands at `q`. -/
structure Exact (plan : Plan) (period threshold : Nat) (start : Point)
    (history : List (Nat × Event)) (q : Point) : Prop where
  /-- It has ended by itself if and only if the latest poll has decided it. This poll began before
  a stop, and all polls before it left the wait open. -/
  decided : ∀ ending, ending ≠ .failed .halted → (q.status = .ended ending ↔
    ∃ polls last, Undecided plan.target threshold polls ∧ Underway start polls history last ∧
      Decides plan.target threshold last ending)
  /-- It has ended halted if and only if it went on after a stop, and no poll had decided it. -/
  halted : q.status = .ended (.failed .halted) ↔
    ∃ polls, Undecided plan.target threshold polls ∧ Halted start polls history
  /-- Until it has ended it goes on: at once after a stop, and else when a tick is due. -/
  waiting : ∀ aim ticker now, q.status = .waiting aim ticker → q.now ≤ now →
    (q.stopped = true → Point.Step plan period q (now, .wake)
      ⟨now, true, .ended (.failed .halted)⟩) ∧
    (q.stopped = false → ticker.due ≤ now → Point.Step plan period q (now, .wake)
      ⟨now, false, .calling (.poll (.wait threshold) (ticker.advance now))⟩)
  /-- It lists the group and asks after instances that are to stay, and makes no other calls. -/
  calls : ∀ stage ∈ answered history ++ q.status.inHand,
    stage.call = .list ∨ ∃ i, plan.target.wants i = true ∧ stage.call = .health i

theorem Standing.call {stage : Stage}
    (h : Standing target threshold start polls history (.calling stage)) :
    stage.call = .list ∨ ∃ i, target.wants i = true ∧ stage.call = .health i := by
  cases stage with
  | survey | choose | destroy => exact h.elim
  | poll aim ticker => exact .inl rfl
  | probe aim ticker tally current rest =>
      obtain ⟨-, poll, -, hasking, -⟩ := h
      refine .inr ⟨current, ?_, rfl⟩
      have hmem : current ∈ target.wanted poll.snapshot := by simp [hasking.wanted_eq]
      exact (List.mem_filter.1 hmem).2

/-- A wait ends with the first poll that decides it, as this poll says, or else it ends halted
when it is told to stop. -/
theorem wait_exact (hperiod : 0 < period)
    (hstart : start.status = await period start.now (.wait threshold))
    (h : Course plan period start history q) :
    Exact plan period threshold start history q where
  decided := by
    intro ending hending
    constructor
    · intro hq
      obtain ⟨polls, hpolls, hstanding⟩ := h.standing hperiod hstart
      rw [hq] at hstanding
      obtain ⟨last, hdecides, hunderway⟩ :
          ∃ last, Decides plan.target threshold last ending ∧
            Underway start polls history last := by
        cases ending with
        | done | noPeriod => exact hstanding
        | failed fault =>
            cases fault with
            | halted => exact absurd rfl hending
            | snapshot | unhealthy => exact hstanding
      exact ⟨polls, last, hpolls, hunderway, hdecides⟩
    -- That the polls before it left the wait open is not needed here: the last one has begun.
    · rintro ⟨polls, last, -, ⟨earlier, time, since, rfl, hrequested, -, rfl⟩, hdecides⟩
      obtain ⟨r, hsince, hr⟩ := h.status_of_wake hperiod hstart
      rw [hrequested, if_neg Bool.false_ne_true] at hr
      obtain ⟨ticker, hpoll⟩ := hr
      exact hsince.ended_of_decides hpoll hdecides
  halted := by
    constructor
    · intro hq
      obtain ⟨polls, hpolls, hstanding⟩ := h.standing hperiod hstart
      rw [hq] at hstanding
      exact ⟨polls, hpolls, hstanding⟩
    · rintro ⟨polls, -, earlier, time, since, rfl, hrequested, -, -⟩
      obtain ⟨r, hsince, hr⟩ := h.status_of_wake hperiod hstart
      rw [if_pos hrequested] at hr
      exact hsince.ended hr
  waiting := by
    intro aim ticker now hq hnow
    obtain ⟨_, -, hstanding⟩ := h.standing hperiod hstart
    rw [hq] at hstanding
    obtain rfl : aim = .wait threshold := hstanding.1
    constructor
    · intro hstopped
      exact .halt hnow hstopped hq
    · intro hstopped hdue
      have hwake : plan.wake now q.stopped (.wait threshold) ticker =
          some ⟨.calling (.poll (.wait threshold) (ticker.advance now)), []⟩ := by
        simp [Plan.wake, hstopped, hdue]
      rw [← hstopped]
      exact .wake hnow hq hwake
  calls := by
    intro stage hmem
    have hbegun : Begun start.status history q.status (answered history ++ q.status.inHand) := by
      rw [Begun, hstart, await, dif_pos hperiod]
      rfl
    obtain ⟨first, rest, r, -, hfirst, hr, -⟩ := h.split_of_begun hbegun hmem
    obtain ⟨_, -, hstanding⟩ := hfirst.standing hperiod hstart
    rw [hr] at hstanding
    exact hstanding.call

open Sample in
/-- A wait for one healthy instance, of which the first poll finds one that is not known to be
healthy. The second finds a healthy one and then one that is unhealthy, which ends the wait, as it
is told to stop too late. -/
theorem wait_exact_unhealthy :
    ∃ history, Course Sample.plan 10 ⟨0, false, .waiting (.wait 1) (ticker 10)⟩ history
        ⟨20, true, .ended (.failed (.unhealthy "c"))⟩ ∧
      Exact Sample.plan 10 1 ⟨0, false, .waiting (.wait 1) (ticker 10)⟩ history
        ⟨20, true, .ended (.failed (.unhealthy "c"))⟩ := by
  have h : Course Sample.plan 10 ⟨0, false, .waiting (.wait 1) (ticker 10)⟩ _
      ⟨10, false, .calling (.poll (.wait 1) (ticker 20))⟩ :=
    Course.refl.wake (Nat.zero_le 10) _ _ rfl rfl
  have h : Course _ _ _ _ ⟨10, false, .calling (.probe (.wait 1) (ticker 20) {} (new "a") [])⟩ :=
    h.reply (Nat.le_refl 10) (.poll _ _) (.ok [new "a", old "b"]) rfl rfl
  have h : Course _ _ _ _ ⟨10, false, .waiting (.wait 1) (ticker 20)⟩ :=
    h.reply (Nat.le_refl 10) (.probe _ _ _ _ _) .unknown rfl rfl
  have h : Course _ _ _ _ ⟨20, false, .calling (.poll (.wait 1) (ticker 30))⟩ :=
    h.wake (by decide) _ _ rfl rfl
  have h : Course _ _ _ _ ⟨20, true, .calling (.poll (.wait 1) (ticker 30))⟩ :=
    h.snoc (.stop (Nat.le_refl 20))
  have h : Course _ _ _ _
      ⟨20, true, .calling (.probe (.wait 1) (ticker 30) {} (new "a") [new "c"])⟩ :=
    h.reply (Nat.le_refl 20) (.poll _ _) (.ok [new "a", old "b", new "c"]) rfl rfl
  have h : Course _ _ _ _ ⟨20, true, .calling (.probe (.wait 1) (ticker 30) ⟨1, 0⟩ (new "c") [])⟩ :=
    h.reply (Nat.le_refl 20) (.probe _ _ _ _ _) .healthy rfl rfl
  have h : Course _ _ _ _ ⟨20, true, .ended (.failed (.unhealthy "c"))⟩ :=
    h.reply (Nat.le_refl 20) (.probe _ _ _ _ _) .unhealthy rfl rfl
  exact ⟨_, h, wait_exact (by decide) rfl h⟩

end Rollout.Update
