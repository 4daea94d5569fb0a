import Rollout.Proofs.Site
import Rollout.Rehearsal.Session

/-!
# What rehearsals keep

A rehearsal is made of changes by others, stops, ends of waits, and answers to calls; what each of
these keeps, the rehearsal keeps to its end, whatever its agenda, its hooks and its delays are. So
the update takes one of its courses, and with a group as its backend the rehearsal is one of the
ways in which this group and the update of it can go on.
-/

namespace Rollout.Rehearsal

open Update

def Entry.reply? : Entry → Option Reply
  | .call _ made answer => some ⟨made, answer⟩
  | .note _ _ => none

def Play.replies (p : Play) : List Reply := p.journal.toList.filterMap Entry.reply?

/-- A property of a backend, of where an update of it stands, and of the calls so far, which is
kept by all that can happen in a rehearsal. -/
structure Kept (plan : Plan) (period : Nat) (keeps : Backend → Point → List Reply → Prop) :
    Prop where
  change : ∀ {b p calls} (c : Group.Change), keeps b p calls → keeps (b.apply c).1 p calls
  stop : ∀ {b p calls now}, keeps b p calls → p.now ≤ now → keeps b ⟨now, true, p.status⟩ calls
  wake : ∀ {b p calls now aim ticker move}, keeps b p calls → p.now ≤ now →
    p.status = .waiting aim ticker → plan.wake now p.stopped aim ticker = some move →
    keeps b ⟨now, p.stopped, move.status⟩ calls
  reply : ∀ {b p calls now stage} (listing : Nat), keeps b p calls → p.now ≤ now →
    p.status = .calling stage →
    keeps (b.answer listing stage.call).2.1
      ⟨now, p.stopped, (plan.resume period now stage (b.answer listing stage.call).1).status⟩
      (calls ++ [⟨stage.call, (b.answer listing stage.call).1⟩])

variable {plan : Plan} {period : Nat} {keeps : Backend → Point → List Reply → Prop} {p q : Play}

/-- The property holds of some surroundings and of an update that stands somewhere in them. -/
def World.Satisfies (keeps : Backend → Point → List Reply → Prop) (now : Nat) (status : Status)
    (calls : List Reply) (w : World) : Prop :=
  ∃ since ≤ now, keeps w.backend ⟨since, w.stopped, status⟩ calls

theorem World.Satisfies.actAll (hkept : Kept plan period keeps) {now : Nat} {status : Status}
    {calls : List Reply} (actions : List Action) :
    ∀ {w : World}, w.Satisfies keeps now status calls →
      (w.actAll plan actions).1.Satisfies keeps now status calls := by
  induction actions with
  | nil =>
      intro w h
      exact h
  | cons action rest ih =>
      rintro w ⟨since, hsince, h⟩
      cases action with
      | change c => exact ih ⟨since, hsince, hkept.change c h⟩
      | stop => exact ih ⟨now, Nat.le_refl _, hkept.stop h hsince⟩

namespace Play

def Satisfies (keeps : Backend → Point → List Reply → Prop) (p : Play) : Prop :=
  p.world.Satisfies keeps p.now p.status p.replies

@[simp] theorem replies_tell (p : Play) (notes : List Note) :
    (p.tell notes).replies = p.replies := by
  simp [replies, tell, List.filterMap_map, Function.comp_def, Entry.reply?]

@[simp] theorem replies_act (p : Play) (plan : Plan) (actions : List Action) :
    (p.act plan actions).replies = p.replies :=
  replies_tell p _

@[simp] theorem replies_enter (p : Play) (move : Move) : (p.enter move).replies = p.replies :=
  replies_tell p _

theorem Satisfies.act (hkept : Kept plan period keeps) (h : p.Satisfies keeps)
    (actions : List Action) : (p.act plan actions).Satisfies keeps := by
  have hworld := World.Satisfies.actAll hkept actions h
  rw [← replies_act p plan actions] at hworld
  exact hworld

theorem Satisfies.enter (hkept : Kept plan period keeps) (h : p.Satisfies keeps) {aim : Aim}
    {ticker : Ticker} {move : Move} (hs : p.status = .waiting aim ticker)
    (hwake : plan.wake p.now p.world.stopped aim ticker = some move) :
    (p.enter move).Satisfies keeps := by
  obtain ⟨since, hsince, h⟩ := h
  rw [← replies_enter p move] at h
  exact ⟨p.now, Nat.le_refl _, hkept.wake h hsince hs hwake⟩

theorem replies_complete (p : Play) (setup : Setup) (stage : Stage) (since : Nat) :
    (p.complete setup period stage since).replies = p.replies ++
      [⟨stage.call, (p.world.backend.answer p.world.calls.list stage.call).1⟩] := by
  unfold complete
  simp only [replies_enter, replies_act]
  simp only [replies, Array.toList_push, List.filterMap_append]
  congr 1
  exact replies_tell p _

/-- What others do when a call was answered comes after the answer, where the update has gone on
already. -/
theorem Satisfies.complete {setup : Setup} (hkept : Kept setup.plan period keeps)
    (h : p.Satisfies keeps) {stage : Stage} (hs : p.status = .calling stage) (since : Nat) :
    (p.complete setup period stage since).Satisfies keeps := by
  obtain ⟨begun, hbegun, h⟩ := h
  have hreply := hkept.reply p.world.calls.list h hbegun hs
  rw [← replies_complete p setup stage since] at hreply
  exact World.Satisfies.actAll hkept _ ⟨p.now, Nat.le_refl _, hreply⟩

theorem Satisfies.next {setup : Setup} (hkept : Kept setup.plan period keeps)
    (h : p.Satisfies keeps) (hnext : p.next setup period = .now q) : q.Satisfies keeps := by
  unfold Play.next at hnext
  split at hnext
  · simp at hnext
  · rename_i aim ticker hs
    split at hnext
    · rename_i move hwake
      obtain rfl := Next.now.inj hnext
      exact h.enter hkept hs hwake
    · simp at hnext
  · rename_i stage hs
    split at hnext
    · obtain rfl := Next.now.inj hnext
      have hcounted : Satisfies keeps
          { p with world := { p.world with calls := p.world.calls.bump stage.call.kind } } := h
      exact hcounted.act hkept _
    · split at hnext
      · obtain rfl := Next.now.inj hnext
        exact h.complete hkept hs _
      · simp at hnext

theorem lt_nextTime {deadline time : Nat} (hdue : p.due? = none) (htime : p.now < time)
    (hdeadline : p.now < deadline) : p.now < p.nextTime deadline time := by
  unfold nextTime
  unfold due? at hdue
  split
  · exact Nat.lt_min.2 ⟨hdeadline, htime⟩
  · rename_i other action rest hagenda
    rw [hagenda] at hdue
    have hother : p.now < other := by simpa using hdue
    exact Nat.lt_min.2 ⟨hdeadline, Nat.lt_min.2 ⟨htime, hother⟩⟩

theorem Satisfies.step {setup : Setup} {deadline : Nat} (hkept : Kept setup.plan period keeps)
    (h : p.Satisfies keeps) (hstep : p.step setup period deadline = some q) :
    q.Satisfies keeps := by
  unfold Play.step at hstep
  split at hstep
  · rename_i action agenda _
    obtain rfl := Option.some.inj hstep
    have hdue : Satisfies keeps { p with agenda } := h
    exact hdue.act hkept [action]
  · rename_i hdue
    split at hstep
    · simp at hstep
    · rename_i hnext
      obtain rfl := Option.some.inj hstep
      exact h.next hkept hnext
    · rename_i time hnext
      split at hstep
      · simp at hstep
      · rename_i hdeadline
        obtain rfl := Option.some.inj hstep
        obtain ⟨since, hsince, h⟩ := h
        have hlater := lt_nextTime hdue (next_later hnext) (Nat.lt_of_not_le hdeadline)
        exact ⟨since, Nat.le_trans hsince (Nat.le_of_lt hlater), h⟩

/-- What is kept holds at the end of a rehearsal if it holds at its beginning. -/
theorem Satisfies.finish {setup : Setup} (hkept : Kept setup.plan period keeps)
    (h : p.Satisfies keeps) (deadline : Nat) : (p.finish setup period deadline).Satisfies keeps := by
  fun_induction Play.finish p setup period deadline with
  | case1 p _ => exact h
  | case2 p q hstep ih => exact ih (h.step hkept hstep)

end Play

theorem kept_course (plan : Plan) (period : Nat) (start : Point) :
    Kept plan period fun _ p calls =>
      ∃ history, Course plan period start history p ∧ replies history = calls where
  change := by
    intro b p calls c h
    exact h
  stop := by
    rintro b p calls now ⟨history, hcourse, rfl⟩ hnow
    exact ⟨_, hcourse.snoc (.stop hnow), by simp⟩
  wake := by
    rintro b p calls now aim ticker move ⟨history, hcourse, rfl⟩ hnow hs hwake
    exact ⟨_, hcourse.snoc (.wake hnow hs hwake), by simp⟩
  reply := by
    rintro b p calls now stage listing ⟨history, hcourse, rfl⟩ hnow hs
    exact ⟨_, hcourse.snoc (.reply hnow hs _), by simp⟩

/-- A rehearsal, over either kind of backend, is a course of the update. -/
theorem course_of_finish (w : World) (status : Status) (agenda : List (Nat × Action))
    (setup : Setup) (period deadline : Nat) {p : Play}
    (hp : (Play.start w status agenda).finish setup period deadline = p) :
    ∃ history now, Course setup.plan period ⟨0, w.stopped, status⟩ history
        ⟨now, p.world.stopped, p.status⟩ ∧ now ≤ p.now ∧ replies history = p.replies := by
  have hkept := kept_course setup.plan period ⟨0, w.stopped, status⟩
  have hstart : (Play.start w status agenda).Satisfies fun _ p calls =>
      ∃ history, Course setup.plan period ⟨0, w.stopped, status⟩ history p ∧
        replies history = calls :=
    ⟨0, Nat.le_refl 0, [], .refl, rfl⟩
  obtain ⟨now, hnow, history, hcourse, hreplies⟩ := hstart.finish hkept deadline
  rw [hp] at hnow hcourse hreplies
  exact ⟨history, now, hcourse, hnow, hreplies⟩

theorem Backend.answer_group (listing : Nat) (g : Group) (call : Call) :
    ((Backend.group g).answer listing call).1 = (g.answer call).1 ∧
      ((Backend.group g).answer listing call).2.1 = .group (g.answer call).2 := by
  cases call <;> exact ⟨rfl, rfl⟩

theorem kept_site (plan : Plan) (start : Site) :
    Kept plan start.period fun b p calls => ∃ s, Site.Steps plan (fun _ => True) start s ∧
      s.period = start.period ∧ b = .group s.group ∧ s.point = p ∧ replies s.history = calls where
  change := by
    rintro b p calls c ⟨s, hs, hperiod, rfl, rfl, rfl⟩
    exact ⟨_, hs.tail (@Site.Step.change _ _ _ c trivial), hperiod, rfl, rfl, rfl⟩
  stop := by
    rintro b p calls now ⟨s, hs, hperiod, rfl, rfl, rfl⟩ hnow
    refine ⟨_, hs.tail (.advance (.stop hnow) trivial), hperiod, rfl, rfl, ?_⟩
    rw [replies_append, replies_stop, List.append_nil]
  wake := by
    rintro b p calls now aim ticker move ⟨s, hs, hperiod, rfl, rfl, rfl⟩ hnow hwaits hwake
    refine ⟨_, hs.tail (.advance (.wake hnow hwaits hwake) trivial), hperiod, rfl, rfl, ?_⟩
    rw [replies_append, replies_wake, List.append_nil]
  reply := by
    rintro b p calls now stage listing ⟨s, hs, hperiod, rfl, rfl, rfl⟩ hnow hcalls
    obtain ⟨hanswer, hbackend⟩ := Backend.answer_group listing s.group stage.call
    rw [hanswer, hbackend, ← hperiod]
    refine ⟨_, hs.tail (.advance (.reply hnow hcalls _) rfl), rfl, rfl, rfl, ?_⟩
    rw [replies_append, replies_reply]

/-- A rehearsal over a group is one of the ways in which this group and the update can go on. -/
theorem steps_of_finish {w : World} {g : Group} (hg : w.backend = .group g) (status : Status)
    (agenda : List (Nat × Action)) (setup : Setup) (period deadline : Nat) {p : Play}
    (hp : (Play.start w status agenda).finish setup period deadline = p) :
    ∃ s, Site.Steps setup.plan (fun _ => True) ⟨g, period, ⟨0, w.stopped, status⟩, []⟩ s ∧
      p.world.backend = .group s.group ∧ s.point.stopped = p.world.stopped ∧
      s.point.status = p.status ∧ replies s.history = p.replies := by
  have hkept := kept_site setup.plan ⟨g, period, ⟨0, w.stopped, status⟩, []⟩
  have hstart : (Play.start w status agenda).Satisfies fun b p calls =>
      ∃ s, Site.Steps setup.plan (fun _ => True) ⟨g, period, ⟨0, w.stopped, status⟩, []⟩ s ∧
        s.period = period ∧ b = .group s.group ∧ s.point = p ∧ replies s.history = calls :=
    ⟨0, Nat.le_refl 0, _, .refl, rfl, hg, rfl, rfl⟩
  obtain ⟨now, -, s, hs, -, hbackend, hpoint, hreplies⟩ := hstart.finish hkept deadline
  rw [hp] at hbackend hpoint hreplies
  exact ⟨s, hs, hbackend, by rw [hpoint], by rw [hpoint], hreplies⟩

/-- A step of a session over a group goes on from one of its sites to another. -/
theorem reach_of_perform {g : Group} {s : Site} {setup : Setup} {w : World}
    (hs : Site.Reach setup.plan (fun _ => True) g s) (hgroup : w.backend = .group s.group)
    (hstopped : s.point.stopped = w.stopped) (step : Step) :
    ∃ t, Site.Reach setup.plan (fun _ => True) g t ∧
      (setup.perform w step).world.backend = .group t.group ∧
      t.point.stopped = (setup.perform w step).world.stopped := by
  cases step with
  | run period deadline agenda =>
      have hbegin := @Site.Reach.again _ _ _ s hs period 0 _ (.inl rfl)
      rw [hstopped] at hbegin
      obtain ⟨t, hsteps, hbackend, hstop, -, -⟩ :=
        steps_of_finish hgroup (.calling .survey) agenda setup period deadline rfl
      exact ⟨t, hbegin.steps hsteps, hbackend, hstop⟩
  | wait threshold period deadline agenda =>
      have hbegin := @Site.Reach.again _ _ _ s hs period 0 _ (.inr ⟨threshold, rfl⟩)
      rw [hstopped] at hbegin
      obtain ⟨t, hsteps, hbackend, hstop, -, -⟩ :=
        steps_of_finish hgroup (await period 0 (.wait threshold)) agenda setup period deadline rfl
      exact ⟨t, hbegin.steps hsteps, hbackend, hstop⟩
  | act action =>
      cases action with
      | change c =>
          refine ⟨_, hs.step (@Site.Step.change _ _ _ c trivial), ?_, hstopped⟩
          simp [Setup.perform, World.act, hgroup, Backend.apply]
      | stop =>
          refine ⟨_, hs.step (.advance (.stop (Nat.le_refl _)) trivial), ?_, rfl⟩
          exact hgroup
  | explain => exact ⟨s, hs, hgroup, hstopped⟩

/-- Whatever a session over a group does, it comes from one site of the group to another. -/
theorem reach_of_performAll {g : Group} {setup : Setup} {steps : List Step} :
    ∀ {s : Site} {w : World}, Site.Reach setup.plan (fun _ => True) g s →
      w.backend = .group s.group → s.point.stopped = w.stopped →
      ∀ report ∈ setup.performAll w steps, ∃ t, Site.Reach setup.plan (fun _ => True) g t ∧
        report.world.backend = .group t.group := by
  induction steps with
  | nil => simp [Setup.performAll]
  | cons step rest ih =>
      intro s w hs hgroup hstopped report hreport
      obtain ⟨t, ht, hbackend, hstop⟩ := reach_of_perform hs hgroup hstopped step
      rcases List.mem_cons.1 hreport with rfl | hlater
      · exact ⟨t, ht, hbackend⟩
      · exact ih ht hbackend hstop report hlater

end Rollout.Rehearsal
