import Rollout.Proofs.Course
import Rollout.Proofs.DestroyOrder

/-!
# The order of the calls

Which calls lead to each place at which an update can stand. A wait is a series of polls; a run
lists the group once, and then alternates between a wait that ends with a poll of enough healthy
instances, a listing, and a destroy. `Course.stands` says that every course keeps to this order,
whatever the answers are.
-/

namespace Rollout.Update

/-- A poll: the snapshot from which it started, and the instances asked after, each with its
answer. -/
structure Poll where
  snapshot : List Instance
  asked : List (Instance × Health)

namespace Poll

def replies (p : Poll) : List Reply :=
  ⟨.list, .ok p.snapshot⟩ :: p.asked.map fun a => ⟨.health a.1, a.2⟩

def healthy (p : Poll) : Nat := p.asked.countP fun a => a.2 = .healthy

/-- Every instance that is to stay was asked after, once and in the order of the snapshot, no
other one was, and none is unhealthy. -/
structure Clean (p : Poll) (target : Settings) : Prop where
  asked_eq : p.asked.map Prod.fst = target.wanted p.snapshot
  not_unhealthy : ∀ a ∈ p.asked, a.2 ≠ .unhealthy

/-- The first of the instances that are to stay were asked after, and none is unhealthy. These are
left. -/
structure Asking (p : Poll) (target : Settings) (rest : List Instance) : Prop where
  wanted_eq : target.wanted p.snapshot = p.asked.map Prod.fst ++ rest
  not_unhealthy : ∀ a ∈ p.asked, a.2 ≠ .unhealthy

def ask (p : Poll) (i : Instance) (h : Health) : Poll := { p with asked := p.asked ++ [(i, h)] }

@[simp] theorem replies_ask (p : Poll) (i : Instance) (h : Health) :
    (p.ask i h).replies = p.replies ++ [⟨.health i, h⟩] := by
  simp [ask, replies]

theorem healthy_ask (p : Poll) (i : Instance) (h : Health) :
    (p.ask i h).healthy = p.healthy + if h = .healthy then 1 else 0 := by
  simp [ask, healthy, List.countP_append, List.countP_singleton]

theorem Asking.begin (target : Settings) (snapshot : List Instance) :
    Asking ⟨snapshot, []⟩ target (target.wanted snapshot) :=
  ⟨rfl, by simp⟩

theorem Asking.ask {p : Poll} {target : Settings} {current : Instance} {rest : List Instance}
    (h : p.Asking target (current :: rest)) {answer : Health} (ha : answer ≠ .unhealthy) :
    (p.ask current answer).Asking target rest where
  wanted_eq := by simpa [Poll.ask] using h.wanted_eq
  not_unhealthy := List.forall_mem_append.2 ⟨h.not_unhealthy, List.forall_mem_singleton.2 ha⟩

theorem Asking.clean {p : Poll} {target : Settings} (h : p.Asking target []) : p.Clean target :=
  ⟨by simpa using h.wanted_eq.symm, h.not_unhealthy⟩

end Poll

/-- The calls of an update up to a moment at which it waits. -/
inductive Waiting (plan : Plan) : Aim → List Reply → Prop where
  | start (threshold : Nat) : Waiting plan (.wait threshold) []
  | survey (snapshot : List Instance) :
      Waiting plan (.replace (plan.target.wanted snapshot).length) [⟨.list, .ok snapshot⟩]
  | poll {aim : Aim} {calls : List Reply} {poll : Poll} (before : Waiting plan aim calls)
      (clean : poll.Clean plan.target) (short : poll.healthy < aim.threshold plan) :
      Waiting plan aim (calls ++ poll.replies)
  | destroy {expected : Nat} {calls : List Reply} {poll : Poll} {choice others : List Instance}
      {victim : Instance} (before : Waiting plan (.replace expected) calls)
      (clean : poll.Clean plan.target)
      (enough : (Aim.replace expected).threshold plan ≤ poll.healthy)
      (chosen : plan.source.destroyOrder (plan.target.unwanted choice) = victim :: others) :
      Waiting plan (.replace (expected + 1))
        (calls ++ poll.replies ++ [⟨.list, .ok choice⟩, ⟨.destroy victim .rollingUpdate, ()⟩])

/-- The calls of an update up to the end of a wait. -/
inductive Quiesced (plan : Plan) (aim : Aim) : List Reply → Prop where
  | intro {calls : List Reply} {poll : Poll} (before : Waiting plan aim calls)
      (clean : poll.Clean plan.target) (enough : aim.threshold plan ≤ poll.healthy) :
      Quiesced plan aim (calls ++ poll.replies)

/-- The calls of an update up to a moment in a poll at which so many instances were healthy, and
the instances that are left to ask after. -/
inductive Polling (plan : Plan) (aim : Aim) (healthy : Nat) (rest : List Instance) :
    List Reply → Prop where
  | intro {calls : List Reply} {poll : Poll} (before : Waiting plan aim calls)
      (wanted : plan.target.wanted poll.snapshot = poll.asked.map Prod.fst ++ rest)
      (not_unhealthy : ∀ a ∈ poll.asked, a.2 ≠ .unhealthy) (counted : healthy = poll.healthy) :
      Polling plan aim healthy rest (calls ++ poll.replies)

/-- The calls that lead to where an update stands. -/
def Stands (plan : Plan) (calls : List Reply) : Status → Prop
  | .waiting aim _ => Waiting plan aim calls
  | .calling .survey => calls = []
  | .calling (.poll aim _) => Waiting plan aim calls
  | .calling (.probe aim _ tally current rest) =>
    Polling plan aim tally.healthy (current :: rest) calls
  | .calling (.choose expected) => Quiesced plan (.replace expected) calls
  | .calling (.destroy expected victim) =>
    ∃ before choice others, Quiesced plan (.replace expected) before ∧
      plan.source.destroyOrder (plan.target.unwanted choice) = victim :: others ∧
      calls = before ++ [⟨.list, .ok choice⟩]
  | .ended .done =>
    (∃ threshold, Quiesced plan (.wait threshold) calls) ∨
      ∃ expected before choice, Quiesced plan (.replace expected) before ∧
        plan.target.unwanted choice = [] ∧ calls = before ++ [⟨.list, .ok choice⟩]
  | .ended (.failed (.snapshot causes)) => ∃ before, calls = before ++ [⟨.list, .error causes⟩]
  | .ended (.failed (.unhealthy id)) =>
    ∃ before i, i.id = id ∧ calls = before ++ [⟨.health i, .unhealthy⟩]
  | .ended (.failed .halted) => ∃ aim, Waiting plan aim calls
  | .ended .noPeriod => ∃ aim, Waiting plan aim calls

variable {plan : Plan} {aim : Aim} {calls : List Reply} {rest : List Instance}

theorem stands_await (period now : Nat) (h : Waiting plan aim calls) :
    Stands plan calls (await period now aim) := by
  unfold await
  split
  · exact h
  · exact ⟨aim, h⟩

theorem Polling.begin (h : Waiting plan aim calls) (snapshot : List Instance) :
    Polling plan aim 0 (plan.target.wanted snapshot) (calls ++ [⟨.list, .ok snapshot⟩]) := by
  have hpoll := @Polling.intro plan aim 0 (plan.target.wanted snapshot) calls ⟨snapshot, []⟩ h
  exact hpoll (by simp) (by simp) rfl

theorem Polling.ask {healthy : Nat} {current : Instance}
    (h : Polling plan aim healthy (current :: rest) calls) (answer : Health)
    (ha : answer ≠ .unhealthy) :
    Polling plan aim (healthy + if answer = .healthy then 1 else 0) rest
      (calls ++ [⟨.health current, answer⟩]) := by
  obtain @⟨calls, poll, before, wanted, not_unhealthy, rfl⟩ := h
  rw [List.append_assoc, ← Poll.replies_ask, ← Poll.healthy_ask]
  have hasking : poll.Asking plan.target (current :: rest) := ⟨wanted, not_unhealthy⟩
  exact .intro before (hasking.ask ha).wanted_eq (hasking.ask ha).not_unhealthy rfl

/-- A poll without instances left to ask after either ends the wait or is one more poll of it. -/
theorem stands_settle (ticker : Ticker) {tally : Tally}
    (h : Polling plan aim tally.healthy [] calls) :
    Stands plan calls (plan.settle aim ticker tally).status := by
  obtain @⟨calls, poll, before, wanted, not_unhealthy, counted⟩ := h
  have clean : poll.Clean plan.target := Poll.Asking.clean ⟨wanted, not_unhealthy⟩
  unfold Plan.settle
  split
  · rename_i henough
    rw [counted] at henough
    cases aim with
    | wait threshold => exact .inl ⟨threshold, .intro before clean henough⟩
    | replace expected => exact .intro before clean henough
  · rename_i hshort
    rw [counted] at hshort
    exact .poll before clean (Nat.lt_of_not_le hshort)

theorem stands_pollOn (ticker : Ticker) {tally : Tally}
    (h : Polling plan aim tally.healthy rest calls) :
    Stands plan calls (plan.pollOn aim ticker tally rest).status := by
  cases rest with
  | nil => exact stands_settle ticker h
  | cons current rest => exact h

theorem status_proceed {expected : Nat} {snapshot others : List Instance} {victim : Instance}
    (h : plan.source.destroyOrder (plan.target.unwanted snapshot) = victim :: others) :
    (plan.proceed expected snapshot).status = .calling (.destroy expected victim) := by
  simp [Plan.proceed, h]

theorem status_proceed_of_nil {snapshot : List Instance} (expected : Nat)
    (h : plan.target.unwanted snapshot = []) :
    (plan.proceed expected snapshot).status = .ended .done := by
  simp [Plan.proceed, Settings.destroyOrder_eq_nil_iff.2 h]

theorem stands_proceed {expected : Nat} (h : Quiesced plan (.replace expected) calls)
    (snapshot : List Instance) :
    Stands plan (calls ++ [⟨.list, .ok snapshot⟩]) (plan.proceed expected snapshot).status := by
  unfold Plan.proceed
  split
  · rename_i hnil
    have hunwanted := Settings.destroyOrder_eq_nil_iff.1 hnil
    exact .inr ⟨expected, calls, snapshot, h, hunwanted, rfl⟩
  · rename_i victim others hcons
    exact ⟨calls, snapshot, others, h, hcons, rfl⟩

theorem stands_resume {stage : Stage} (period now : Nat)
    (h : Stands plan calls (.calling stage)) (answer : stage.call.Answer) :
    Stands plan (calls ++ [⟨stage.call, answer⟩]) (plan.resume period now stage answer).status := by
  cases stage with
  | survey =>
      obtain rfl : calls = [] := h
      cases answer with
      | error causes => exact ⟨[], rfl⟩
      | ok snapshot => exact stands_await period now (.survey snapshot)
  | poll aim ticker =>
      cases answer with
      | error causes => exact ⟨calls, rfl⟩
      | ok snapshot => exact stands_pollOn ticker (Polling.begin h snapshot)
  -- An unhealthy answer ends the update, so that a poll goes on with the other two only.
  | probe aim ticker tally current rest =>
      have hasking : Polling plan aim tally.healthy (current :: rest) calls := h
      cases answer with
      | healthy => exact stands_pollOn ticker (hasking.ask .healthy (by decide))
      | unhealthy => exact ⟨calls, current, rfl, rfl⟩
      | unknown => exact stands_pollOn ticker (hasking.ask .unknown (by decide))
  | choose expected =>
      cases answer with
      | error causes => exact ⟨calls, rfl⟩
      | ok snapshot => exact stands_proceed h snapshot
  | destroy expected victim =>
      obtain ⟨before, choice, others, ⟨waited, clean, enough⟩, chosen, rfl⟩ := h
      have hdestroy := Waiting.destroy waited clean enough chosen
      apply stands_await
      simpa using hdestroy

theorem stands_wake {now : Nat} {stopped : Bool} {ticker : Ticker} {move : Move}
    (h : Waiting plan aim calls) (hwake : plan.wake now stopped aim ticker = some move) :
    Stands plan calls move.status := by
  rcases wake_cases hwake with ⟨-, hmove⟩ | ⟨-, -, hmove⟩
  · rw [hmove]
    exact ⟨aim, h⟩
  · rw [hmove]
    exact h

theorem Point.Step.stands {period : Nat} {p q : Point} {e : Nat × Event}
    (hstep : Point.Step plan period p e q) (h : Stands plan calls p.status) :
    Stands plan (calls ++ Update.replies [e]) q.status := by
  cases hstep with
  | stop => simpa using h
  | wake _ waits goes =>
      rw [waits] at h
      simpa using stands_wake h goes
  | reply _ calling answer =>
      rw [calling] at h
      exact stands_resume _ _ h answer

theorem Course.stands {period : Nat} {start p : Point} {history : List (Nat × Event)}
    (h : Course plan period start history p) (hs : Stands plan [] start.status) :
    Stands plan (Update.replies history) p.status := by
  induction h with
  | refl => exact hs
  | snoc _ step ih =>
      rw [replies_append]
      exact step.stands ih

/-- A poll goes on past the instances that are not unhealthy, and counts those that are healthy. -/
theorem Course.asked_on {period : Nat} {ticker : Ticker} {q : Point} {more : List Reply}
    {asked : List (Instance × Health)} (hasked : ∀ a ∈ asked, a.2 ≠ .unhealthy) :
    ∀ {p : Point} {tally : Tally} {later : List (Nat × Event)}, Course plan period p later q →
      p.status = (plan.pollOn aim ticker tally (asked.map Prod.fst ++ rest)).status →
      Update.replies later = asked.map (fun a => ⟨.health a.1, a.2⟩) ++ more →
      ∃ (p' : Point) (tally' : Tally) (later' : List (Nat × Event)),
        Course plan period p' later' q ∧ p'.status = (plan.pollOn aim ticker tally' rest).status ∧
          Update.replies later' = more ∧
          tally'.healthy = tally.healthy + asked.countP fun a => a.2 = .healthy := by
  induction asked with
  | nil =>
      intro p tally later hcourse hp hreplies
      exact ⟨p, tally, later, hcourse, hp, hreplies, rfl⟩
  | cons a asked ih =>
      intro p tally later hcourse hp hreplies
      obtain ⟨i, health⟩ := a
      rcases hcourse.replies_of_calling hp with
        ⟨hnil, -⟩ | ⟨now, answer, next, after, hcons, hnext, hafter⟩
      · simp [hnil] at hreplies
      rw [hcons, List.map_cons, List.cons_append, List.cons.injEq] at hreplies
      obtain ⟨hreply, hrest⟩ := hreplies
      have hothers : ∀ a ∈ asked, a.2 ≠ .unhealthy := fun a ha =>
        hasked a (List.mem_cons_of_mem _ ha)
      cases health with
      | unhealthy => exact absurd rfl (hasked _ List.mem_cons_self)
      | healthy =>
          obtain rfl : answer = .healthy := by simpa using hreply
          obtain ⟨p', tally', later', h, hp', hmore, hcount⟩ := ih hothers hafter hnext hrest
          refine ⟨p', tally', later', h, hp', hmore, ?_⟩
          simpa [Nat.add_assoc, Nat.add_comm 1] using hcount
      | unknown =>
          obtain rfl : answer = .unknown := by simpa using hreply
          obtain ⟨p', tally', later', h, hp', hmore, hcount⟩ := ih hothers hafter hnext hrest
          exact ⟨p', tally', later', h, hp', hmore, by simpa using hcount⟩

end Rollout.Update
