import Rollout.Proofs.Begun
import Rollout.Proofs.Gating
import Rollout.Proofs.Timely

/-!
# The pace of polls and destroys

A wait has a ticker of its own. As long as polls end in time they begin on its schedule; a poll
that comes late, because the one before it took long, starts a new schedule. `Ticks` is this rule for
the polls of a wait, each with the time at which it began and its answers, and `Timely.ticks` says
that waits follow it. What is wanted of the pace follows from the rule alone. A run destroys nothing
before the first tick of a wait that began after its previous destroy.
-/

namespace Rollout.Update

/-- One poll of a wait: when it began, and the answers to its calls so far. -/
structure Round where
  begun : Nat
  answers : List (Nat × Event)

namespace Round

def events (r : Round) : List (Nat × Event) := (r.begun, .wake) :: r.answers

/-- When the last of its calls was answered. -/
def ended (r : Round) : Nat := (r.answers.getLast?.map Prod.fst).getD r.begun

def answer (r : Round) (e : Nat × Event) : Round := { r with answers := r.answers ++ [e] }

@[simp] theorem begun_answer (r : Round) (e : Nat × Event) : (r.answer e).begun = r.begun := rfl

@[simp] theorem ended_answer (r : Round) (e : Nat × Event) : (r.answer e).ended = e.1 := by
  simp [ended, answer]

/-- The round is one poll, and its answers came after it began. -/
structure Proper (r : Round) : Prop where
  begun_le : r.begun ≤ r.ended
  one : ∀ e ∈ r.answers, e.2 ≠ .wake

theorem Proper.answer {r : Round} (h : r.Proper) {time : Nat} (hlater : r.ended ≤ time)
    {stage : Stage} (answer : stage.call.Answer) :
    (r.answer (time, .reply stage answer)).Proper where
  begun_le := by
    rw [begun_answer, ended_answer]
    exact h.begun_le.trans hlater
  one := List.forall_mem_append.2 ⟨h.one, by simp⟩

/-- The poll is over: all that it asks for was answered. -/
def Whole (target : Settings) (r : Round) : Prop :=
  ∃ poll : Poll, replies r.answers = poll.replies ∧ poll.Clean target

end Round

/-- When the last of some polls of a wait ended, or when the wait began. -/
def lull (start : Nat) (rounds : List Round) : Nat := (rounds.getLast?.map Round.ended).getD start

@[simp] theorem lull_nil (start : Nat) : lull start [] = start := rfl

@[simp] theorem lull_concat (start : Nat) (rounds : List Round) (r : Round) :
    lull start (rounds ++ [r]) = r.ended := by
  simp [lull]

/-- The polls of a wait that began at a time, and when the next one is due. Each begins when it is
due, or when the one before it has ended if this is later. -/
inductive Ticks (period start : Nat) : List Round → Nat → Prop where
  | nil : Ticks period start [] (start + period)
  | snoc {rounds : List Round} {due : Nat} {r : Round} (before : Ticks period start rounds due)
      (begun_eq : r.begun = max (lull start rounds) due) :
      Ticks period start (rounds ++ [r])
        (if r.begun ≤ due + Ticker.tolerance then due + period else r.begun + period)

namespace Ticks

variable {period start due : Nat} {rounds : List Round} {r : Round}

theorem answer (h : Ticks period start (rounds ++ [r]) due) (e : Nat × Event) :
    Ticks period start (rounds ++ [r.answer e]) due := by
  generalize hall : rounds ++ [r] = all at h
  cases h with
  | nil => simp at hall
  | snoc before begun_eq =>
      obtain ⟨rfl, hlast⟩ := List.append_inj' hall rfl
      obtain rfl := List.singleton_inj.1 hlast
      exact .snoc (r := r.answer e) before begun_eq

/-- A poll is due again one period after it began, or less by what a tick may be late. -/
theorem le_due (h : Ticks period start (rounds ++ [r]) due) :
    r.begun + period ≤ due + Ticker.tolerance := by
  generalize hall : rounds ++ [r] = all at h
  cases h with
  | nil => simp at hall
  | snoc before begun_eq =>
      obtain ⟨-, hlast⟩ := List.append_inj' hall rfl
      obtain rfl := List.singleton_inj.1 hlast
      split <;> omega

/-- Polls that end within a period leave the schedule as it is. -/
theorem due_eq (h : Ticks period start rounds due)
    (hpunctual : ∀ r ∈ rounds, r.ended ≤ r.begun + period) :
    due = start + (rounds.length + 1) * period ∧ lull start rounds ≤ due := by
  induction h with
  | nil => simp
  | @snoc rounds due r _ begun_eq ih =>
      obtain ⟨hdue, hlull⟩ := ih fun a ha => hpunctual a (List.mem_append_left _ ha)
      have hbegun : r.begun = due := begun_eq.trans (Nat.max_eq_right hlull)
      have hended : r.ended ≤ r.begun + period := hpunctual r (by simp)
      rw [if_pos (by omega), lull_concat, List.length_append, List.length_singleton]
      refine ⟨?_, hbegun ▸ hended⟩
      rw [hdue, Nat.add_assoc, ← Nat.succ_mul]

end Ticks

/-- How the polls of a wait follow each other. Each begins when the one before it is over, and not
much less than a period after it began. Where all polls before it took no longer than a period it
begins on schedule, as the first one always does. -/
structure Paced (target : Settings) (period start : Nat) (rounds : List Round) : Prop where
  proper : ∀ r ∈ rounds, r.Proper
  whole : ∀ r ∈ rounds.dropLast, r.Whole target
  first : ∀ r after, rounds = r :: after → r.begun = start + period
  gap : ∀ before a b after, rounds = before ++ a :: b :: after →
    a.ended ≤ b.begun ∧ a.begun + (period - Ticker.tolerance) ≤ b.begun
  steady : ∀ before r after, rounds = before ++ r :: after →
    (∀ a ∈ before, a.ended ≤ a.begun + period) → r.begun = start + (before.length + 1) * period

theorem concat_eq_append_cons {α : Type} {xs before after : List α} {x y : α}
    (h : xs ++ [x] = before ++ y :: after) :
    (after = [] ∧ xs = before ∧ x = y) ∨
      ∃ rest, after = rest ++ [x] ∧ xs = before ++ y :: rest := by
  rcases List.eq_nil_or_concat after with rfl | ⟨rest, last, rfl⟩
  · obtain ⟨hxs, hx⟩ := List.append_inj' h rfl
    exact .inl ⟨rfl, hxs, List.singleton_inj.1 hx⟩
  · rw [List.concat_eq_append, ← List.cons_append, ← List.append_assoc] at h
    obtain ⟨hxs, hx⟩ := List.append_inj' h rfl
    obtain rfl := List.singleton_inj.1 hx
    exact .inr ⟨rest, List.concat_eq_append, hxs⟩

namespace Ticks

variable {period start due : Nat} {rounds before after : List Round} {r a b : Round}

theorem begun_eq_of_punctual (h : Ticks period start rounds due)
    (hsplit : rounds = before ++ r :: after)
    (hpunctual : ∀ a ∈ before, a.ended ≤ a.begun + period) :
    r.begun = start + (before.length + 1) * period := by
  induction h generalizing after with
  | nil => simp at hsplit
  | snoc earlier begun_eq ih =>
      rcases concat_eq_append_cons hsplit with ⟨-, rfl, rfl⟩ | ⟨rest, -, hrounds⟩
      · obtain ⟨hdue, hlull⟩ := earlier.due_eq hpunctual
        rw [begun_eq, Nat.max_eq_right hlull, hdue]
      · exact ih hrounds

theorem gap (h : Ticks period start rounds due) (hsplit : rounds = before ++ a :: b :: after) :
    a.ended ≤ b.begun ∧ a.begun + period ≤ b.begun + Ticker.tolerance := by
  induction h generalizing after with
  | nil => simp at hsplit
  | @snoc rounds due last earlier begun_eq ih =>
      rw [List.append_cons before] at hsplit
      rcases concat_eq_append_cons hsplit with ⟨-, rfl, rfl⟩ | ⟨rest, -, hrounds⟩
      · have hdue := earlier.le_due
        rw [begun_eq, lull_concat]
        omega
      · exact ih (hrounds.trans (List.append_cons ..).symm)

end Ticks

section Waits

/-- What can happen in a wait that is not told to stop. -/
def Event.OfWait : Event → Prop
  | .wake => True
  | .reply (.poll ..) _ => True
  | .reply (.probe ..) _ => True
  | _ => False

/-- Where a wait stands after some polls, of which the last one may not be over. -/
def Rhythm (target : Settings) (period start : Nat) (rounds : List Round) : Status → Prop
  | .waiting _ ticker => ticker.period = period ∧ Ticks period start rounds ticker.due ∧
    ∀ r ∈ rounds, r.Whole target
  | .calling (.poll _ ticker) => ticker.period = period ∧ Ticks period start rounds ticker.due ∧
    ∃ before r, rounds = before ++ [r] ∧ (∀ a ∈ before, a.Whole target) ∧ replies r.answers = []
  | .calling (.probe _ ticker _ current rest) => ticker.period = period ∧
    Ticks period start rounds ticker.due ∧
    ∃ before r, rounds = before ++ [r] ∧ (∀ a ∈ before, a.Whole target) ∧
      ∃ poll : Poll, replies r.answers = poll.replies ∧ poll.Asking target (current :: rest)
  | _ => ∃ due, Ticks period start rounds due ∧ ∀ r ∈ rounds.dropLast, r.Whole target

variable {plan : Plan} {period start now : Nat} {aim : Aim} {ticker : Ticker} {p q : Point}
  {history : List (Nat × Event)} {before : List Round} {r : Round}

theorem Rhythm.ended {ending : Ending} {due : Nat} (hticks : Ticks period start (before ++ [r]) due)
    (hwhole : ∀ a ∈ before, a.Whole plan.target) (e : Nat × Event) :
    Rhythm plan.target period start (before ++ [r.answer e]) (.ended ending) :=
  ⟨due, hticks.answer e, by simpa using hwhole⟩

/-- A poll goes on, or it is over and the wait with it, or the next one is due. -/
theorem rhythm_pollOn {poll : Poll} {rest : List Instance} (hperiod : ticker.period = period)
    (hticks : Ticks period start (before ++ [r]) ticker.due)
    (hwhole : ∀ a ∈ before, a.Whole plan.target)
    (hreplies : replies r.answers = poll.replies) (hasking : poll.Asking plan.target rest)
    (tally : Tally) :
    Rhythm plan.target period start (before ++ [r]) (plan.pollOn aim ticker tally rest).status := by
  cases rest with
  | cons current rest => exact ⟨hperiod, hticks, before, r, rfl, hwhole, poll, hreplies, hasking⟩
  | nil =>
      unfold Plan.pollOn Plan.settle
      by_cases hmet : aim.threshold plan ≤ tally.healthy
      · rw [if_pos hmet]
        cases aim <;> exact ⟨_, hticks, by simpa using hwhole⟩
      · rw [if_neg hmet]
        have hlast : r.Whole plan.target := ⟨poll, hreplies, hasking.clean⟩
        exact ⟨hperiod, hticks, List.forall_mem_append.2 ⟨hwhole, by simpa using hlast⟩⟩

theorem Rhythm.reply {stage : Stage} {rounds : List Round} (time : Nat)
    (h : Rhythm plan.target (min period longestWait) start rounds (.calling stage))
    (answer : stage.call.Answer) (hstage : (Event.reply stage answer).OfWait) :
    ∃ before r, rounds = before ++ [r] ∧
      Rhythm plan.target (min period longestWait) start
        (before ++ [r.answer (time, .reply stage answer)])
        (plan.resume period time stage answer).status := by
  cases stage with
  | survey | choose | destroy => exact hstage.elim
  | poll aim ticker =>
      obtain ⟨hperiod, hticks, before, r, rfl, hwhole, hnone⟩ := h
      refine ⟨before, r, rfl, ?_⟩
      cases answer with
      | error causes => exact .ended hticks hwhole _
      | ok snapshot =>
          have hlisted : replies (r.answer (time, .reply (.poll aim ticker) (.ok snapshot))).answers =
              Poll.replies ⟨snapshot, []⟩ := by
            simp [Round.answer, hnone, Poll.replies]
          exact rhythm_pollOn hperiod (hticks.answer _) hwhole hlisted (.begin _ snapshot) _
  | probe aim ticker tally current rest =>
      obtain ⟨hperiod, hticks, before, r, rfl, hwhole, poll, hreplies, hasking⟩ := h
      refine ⟨before, r, rfl, ?_⟩
      have hasked (health : Health) :
          replies (r.answer (time, .reply (.probe aim ticker tally current rest) health)).answers =
            (poll.ask current health).replies := by
        simp [Round.answer, hreplies]
      cases answer with
      | unhealthy => exact .ended hticks hwhole _
      | healthy =>
          exact rhythm_pollOn hperiod (hticks.answer _) hwhole (hasked _)
            (hasking.ask (by decide)) _
      | unknown =>
          exact rhythm_pollOn hperiod (hticks.answer _) hwhole (hasked _)
            (hasking.ask (by decide)) _

/-- What has happened in a wait is a series of polls that keeps to the rule. -/
theorem Timely.rhythm {first : Point} (h : Timely plan period first history p)
    (hperiod : 0 < period) (hfirst : first.status = await period first.now aim)
    (hgoing : first.stopped = false) (hwait : ∀ e ∈ history, e.2.OfWait) :
    ∃ rounds, history = rounds.flatMap Round.events ∧
      Rhythm plan.target (min period longestWait) first.now rounds p.status ∧
      p.stopped = false ∧ p.now = lull first.now rounds ∧ ∀ r ∈ rounds, r.Proper := by
  induction h with
  | refl =>
      refine ⟨[], rfl, ?_, hgoing, rfl, by simp⟩
      rw [hfirst, await, dif_pos hperiod]
      exact ⟨rfl, .nil, by simp⟩
  | @snoc history p q e _ step idle ih =>
      obtain ⟨rounds, rfl, hrhythm, hgoing, hnow, hproper⟩ :=
        ih fun e he => hwait e (List.mem_append_left _ he)
      have he : e.2.OfWait := hwait e (by simp)
      cases step with
      | stop => exact he.elim
      | @wake now aim ticker move later waits goes =>
          rw [waits] at hrhythm
          obtain ⟨hticker, hticks, hwhole⟩ := hrhythm
          rcases wake_cases goes with ⟨hstopped, -⟩ | ⟨-, hdue, hmove⟩
          · simp [hgoing] at hstopped
          have hbegun := idle.eq_max waits hgoing later hdue
          rw [hnow] at hbegun
          have hnew : Round.Proper ⟨now, []⟩ := ⟨Nat.le_refl now, by simp⟩
          refine ⟨rounds ++ [⟨now, []⟩], by simp [Round.events], ?_, hgoing, by simp [Round.ended],
            List.forall_mem_append.2 ⟨hproper, List.forall_mem_singleton.2 hnew⟩⟩
          rw [hmove]
          have hnext := hticks.snoc (r := ⟨now, []⟩) hbegun
          rw [← hticker] at hnext
          exact ⟨hticker, hticker ▸ hnext, rounds, _, rfl, hwhole, rfl⟩
      | @reply now stage later calls answer =>
          rw [calls] at hrhythm
          obtain ⟨before, r, rfl, hnext⟩ := hrhythm.reply now answer he
          obtain ⟨hbefore, hlast⟩ := List.forall_mem_append.1 hproper
          have hr : r.Proper := hlast r List.mem_cons_self
          rw [lull_concat] at hnow
          exact ⟨_, by simp [Round.events, Round.answer], hnext, hgoing, by simp,
            List.forall_mem_append.2 ⟨hbefore, List.forall_mem_singleton.2
              (hr.answer (hnow ▸ later) answer)⟩⟩

theorem Rhythm.paced {target : Settings} {rounds : List Round} {status : Status}
    (h : Rhythm target period start rounds status) (hproper : ∀ r ∈ rounds, r.Proper) :
    Paced target period start rounds := by
  have hticks : ∃ due, Ticks period start rounds due ∧ ∀ r ∈ rounds.dropLast, r.Whole target := by
    rcases status with ⟨_, ticker⟩ | stage | _
    · exact ⟨_, h.2.1, fun r hr => h.2.2 r (List.dropLast_subset _ hr)⟩
    · cases stage with
      | survey | choose | destroy => exact h
      | poll aim ticker =>
          obtain ⟨-, hticks, before, r, rfl, hwhole, -⟩ := h
          exact ⟨_, hticks, by simpa using hwhole⟩
      | probe aim ticker tally current rest =>
          obtain ⟨-, hticks, before, r, rfl, hwhole, -⟩ := h
          exact ⟨_, hticks, by simpa using hwhole⟩
    · exact h
  obtain ⟨due, hticks, hwhole⟩ := hticks
  refine ⟨hproper, hwhole, ?_, ?_, fun _ _ _ => hticks.begun_eq_of_punctual⟩
  · intro r after hrounds
    have hpunctual : ∀ a ∈ ([] : List Round), a.ended ≤ a.begun + period := by simp
    simpa using hticks.begun_eq_of_punctual hrounds hpunctual
  · intro before a b after hrounds
    obtain ⟨hended, hgap⟩ := hticks.gap hrounds
    have hbegun := (hproper a (by simp [hrounds])).begun_le
    refine ⟨hended, ?_⟩
    omega

/-- A wait goes on: the next poll can begin, at a time before which nothing else can come. -/
def Point.Continues (plan : Plan) (period : Nat) (p : Point) : Prop :=
  ∀ aim ticker, p.status = .waiting aim ticker → ∃ time next q,
    Point.Step plan period p (time, .wake) q ∧ p.Idle plan time ∧
      q.status = .calling (.poll aim next)

theorem Point.continues (hgoing : p.stopped = false) : p.Continues plan period := by
  intro aim ticker hwaits
  have hwake : plan.wake (max p.now ticker.due) p.stopped aim ticker =
      some ⟨.calling (.poll aim (ticker.advance (max p.now ticker.due))), []⟩ := by
    simp [Plan.wake, hgoing]
  exact ⟨max p.now ticker.due, _, _, .wake (Nat.le_max_left ..) hwaits hwake,
    .of_waiting hwaits hgoing (Nat.le_refl _), rfl⟩

end Waits

section Runs

variable {plan : Plan} {period : Nat} {aim : Aim} {p q : Point} {history : List (Nat × Event)}

/-- Nothing is called after the beginning of a wait until its first tick. -/
theorem Course.le_now_of_await (h : Course plan period p history q) (hperiod : 0 < period)
    (hp : p.status = await period p.now aim) :
    (∃ aim ticker, q.status = .waiting aim ticker ∧ p.now + min period longestWait ≤ ticker.due) ∨
      (∃ ending, q.status = .ended ending) ∨ p.now + min period longestWait ≤ q.now := by
  induction h with
  | refl =>
      rw [await, dif_pos hperiod] at hp
      exact .inl ⟨_, _, hp, Nat.le_refl _⟩
  | snoc _ step ih =>
      cases step with
      | stop later => exact ih.imp_right (Or.imp_right later.trans')
      | reply later calls answer =>
          rcases ih with ⟨_, _, hwaits, -⟩ | ⟨_, hended⟩ | hnow
          · simp [hwaits] at calls
          · simp [hended] at calls
          · exact .inr (.inr (hnow.trans later))
      | wake later waits goes =>
          rcases ih with ⟨_, _, hwaits, hdue⟩ | ⟨_, hended⟩ | hnow
          · obtain ⟨rfl, rfl⟩ := by simpa [hwaits] using waits
            rcases wake_cases goes with ⟨-, hmove⟩ | ⟨-, hdue', -⟩
            · exact .inr (.inl ⟨_, hmove⟩)
            · exact .inr (.inr (hdue.trans hdue'))
          · simp [hended] at waits
          · exact .inr (.inr (hnow.trans later))

theorem Course.add_le_of_destroy {first : Point} {stage : Stage} {answer : stage.call.Answer}
    {between : List (Nat × Event)} {returned time expected : Nat} {event : Event}
    {victim : Instance} (hperiod : 0 < period)
    (h : Course plan period first
      (history ++ (returned, .reply stage answer) :: between ++ [(time, event)]) q)
    (hstage : stage = .survey ∨ ∃ expected victim, stage = .destroy expected victim)
    (hbegins : Stage.destroy expected victim ∈ event.opens q.status) :
    returned + min period longestWait ≤ time := by
  rw [List.append_assoc, List.cons_append, List.append_cons] at h
  obtain ⟨p, hp, hlater⟩ := h.exists_of_append
  obtain ⟨m, -, hreply⟩ := hp.exists_of_concat
  have htime : q.now = time := by
    obtain ⟨_, -, hlast⟩ := hlater.exists_of_concat
    cases hlast <;> rfl
  have hdestroy : q.status = .calling (.destroy expected victim) := by
    cases event with
    | stop => simp at hbegins
    | wake | reply =>
        cases hq : q.status with
        | waiting | ended => simp [hq, Status.inHand] at hbegins
        | calling other => simpa [hq, Status.inHand, eq_comm] using hbegins
  -- The reply begins a wait, unless the group could not be listed.
  have hawait : p.now = returned ∧
      ((∃ aim, p.status = await period p.now aim) ∨ ∃ ending, p.status = .ended ending) := by
    cases hreply with
    | reply _ _ answer =>
        refine ⟨rfl, ?_⟩
        rcases hstage with rfl | ⟨_, _, rfl⟩
        · cases answer with
          | error causes => exact .inr ⟨_, rfl⟩
          | ok snapshot => exact .inl ⟨_, rfl⟩
        · exact .inl ⟨_, rfl⟩
  obtain ⟨rfl, ⟨aim, haim⟩ | ⟨ending, hended⟩⟩ := hawait
  · rcases hlater.le_now_of_await hperiod haim with ⟨_, _, hwaits, -⟩ | ⟨_, hended⟩ | hnow
    · simp [hdestroy] at hwaits
    · simp [hdestroy] at hended
    · exact hnow.trans_eq htime
  · have hq := hlater.ended hended
    simp [hdestroy] at hq

end Runs

/-- The pace of waits and runs, however long calls take. The polls of a wait that is not told to
stop follow each other as `Paced` says, and the next one comes as long as the wait goes on. In a
run, whenever it is told to stop, each destroy begins a period or more after each earlier one was
answered, and after the first listing. A period counts as `longestWait` at most. -/
theorem polls_paced (plan : Plan) {period : Nat} (hperiod : 0 < period) :
    (∀ (aim : Aim) (first : Point) (history : List (Nat × Event)) (p : Point),
      first.status = await period first.now aim → first.stopped = false →
      Timely plan period first history p → (∀ e ∈ history, e.2.OfWait) →
      p.Continues plan period ∧ ∃ rounds, history = rounds.flatMap Round.events ∧
        Paced plan.target (min period longestWait) first.now rounds) ∧
    ∀ (first q : Point) (history between : List (Nat × Event)) (stage : Stage)
      (answer : stage.call.Answer) (returned time : Nat) (event : Event) (expected : Nat)
      (victim : Instance), first.status = .calling .survey →
      (stage = .survey ∨ ∃ expected victim, stage = .destroy expected victim) →
      Course plan period first
        (history ++ (returned, .reply stage answer) :: between ++ [(time, event)]) q →
      Stage.destroy expected victim ∈ event.opens q.status →
      returned + min period longestWait ≤ time := by
  constructor
  · intro aim first history p hfirst hgoing htimely hwait
    obtain ⟨rounds, hrounds, hrhythm, hstopped, -, hproper⟩ :=
      htimely.rhythm hperiod hfirst hgoing hwait
    exact ⟨Point.continues hstopped, rounds, hrounds, hrhythm.paced hproper⟩
  · intro first q history between stage answer returned time event expected victim _ hstage hcourse
    exact hcourse.add_le_of_destroy hperiod hstage

open Sample in
/-- The second poll of a wait ends so late that the third one begins a new schedule. A run destroys
an instance after its first listing. -/
theorem polls_paced_late :
    let history : List (Nat × Event) :=
      [(10, .wake), (13, .reply (.poll (.wait 1) (ticker 20)) (.ok [new "a"])),
        (14, .reply (.probe (.wait 1) (ticker 20) {} (new "a") []) .unknown),
        (20, .wake), (30, .reply (.poll (.wait 1) (ticker 30)) (.ok [new "a"])),
        (37, .reply (.probe (.wait 1) (ticker 30) {} (new "a") []) .unknown), (37, .wake)]
    Timely Sample.plan 10 ⟨0, false, await 10 0 (.wait 1)⟩ history
        ⟨37, false, .calling (.poll (.wait 1) (ticker 47))⟩ ∧
      (∃ rounds, history = rounds.flatMap Round.events ∧
        Paced Sample.plan.target (min 10 longestWait) 0 rounds) ∧
      2 + min 10 longestWait ≤ 14 := by
  intro history
  have h : Timely Sample.plan 10 ⟨0, false, await 10 0 (.wait 1)⟩ [(10, .wake)]
      ⟨10, false, .calling (.poll (.wait 1) (ticker 20))⟩ :=
    Timely.refl.wake (Nat.zero_le 10) _ _ rfl rfl (.of_waiting rfl rfl (by decide))
  have h : Timely _ _ _ _ ⟨13, false, .calling (.probe (.wait 1) (ticker 20) {} (new "a") [])⟩ :=
    h.reply (by decide) (.poll _ _) (.ok [new "a"]) rfl rfl
  have h : Timely _ _ _ _ ⟨14, false, .waiting (.wait 1) (ticker 20)⟩ :=
    h.reply (by decide) (.probe _ _ _ _ _) .unknown rfl rfl
  have h : Timely _ _ _ _ ⟨20, false, .calling (.poll (.wait 1) (ticker 30))⟩ :=
    h.wake (by decide) _ _ rfl rfl (.of_waiting rfl rfl (by decide))
  have h : Timely _ _ _ _ ⟨30, false, .calling (.probe (.wait 1) (ticker 30) {} (new "a") [])⟩ :=
    h.reply (by decide) (.poll _ _) (.ok [new "a"]) rfl rfl
  have h : Timely _ _ _ _ ⟨37, false, .waiting (.wait 1) (ticker 30)⟩ :=
    h.reply (by decide) (.probe _ _ _ _ _) .unknown rfl rfl
  have h : Timely _ _ _ _ ⟨37, false, .calling (.poll (.wait 1) (ticker 47))⟩ :=
    h.wake (Nat.le_refl 37) _ _ rfl rfl (.of_waiting rfl rfl (by decide))
  have hrun : Course Sample.plan 10 ⟨0, false, .calling .survey⟩ _ _ :=
    Course.refl.reply (Nat.zero_le 2) .survey (.ok [old "a"]) rfl rfl
  have hrun : Course _ _ _ _ ⟨12, false, .calling (.poll (.replace 0) (ticker 22))⟩ :=
    hrun.wake (by decide) (.replace 0) (ticker 12) rfl rfl
  have hrun : Course _ _ _ _ ⟨13, false, .calling (.choose 0)⟩ :=
    hrun.reply (by decide) (.poll _ _) (.ok [old "a"]) rfl rfl
  have hrun : Course _ _ _ _ ⟨14, false, .calling (.destroy 0 (old "a"))⟩ :=
    hrun.reply (by decide) (.choose 0) (.ok [old "a"]) rfl
      (status_proceed (Settings.destroyOrder_eq_self (by decide)))
  obtain ⟨hwaits, hruns⟩ := polls_paced Sample.plan (show 0 < 10 by decide)
  refine ⟨h, (hwaits (.wait 1) _ _ _ rfl rfl h (by simp [Event.OfWait])).2, ?_⟩
  exact hruns _ _ [] [(12, .wake), (13, .reply (.poll (.replace 0) (ticker 22)) (.ok [old "a"]))] _
    _ _ _ _ 0 (old "a") rfl (.inl rfl) hrun (by simp [Status.inHand])

/-- With a poll interval above the longest wait, the first poll begins before the interval has
passed. -/
theorem not_due_of_longestWait_lt :
    let first : Point := ⟨0, false, await 2000000000000 0 (.wait 0)⟩
    0 < 2000000000000 ∧ first.stopped = false ∧
      ¬∀ time p, Timely Sample.plan 2000000000000 first [(time, .wake)] p →
        time = first.now + 2000000000000 := by
  intro first
  refine ⟨by decide, rfl, ?_⟩
  intro hall
  have h : Timely Sample.plan 2000000000000 first [(longestWait, .wake)] _ :=
    Timely.refl.wake (Nat.zero_le _) _ _ rfl rfl (.of_waiting rfl rfl (by decide))
  exact absurd (hall _ _ h) (by decide)

end Rollout.Update
