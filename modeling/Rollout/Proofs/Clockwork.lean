import Rollout.Proofs.Alone
import Rollout.Proofs.Rehearsal
import Rollout.Simulation.Program

/-!
# Rehearsals in which calls take no time

Where calls take no time and nobody acts at them, a rehearsal goes from one call of the update to
the next at the same time, and from one tick to the next by a jump of the clock, until something
on the agenda is due. `Play.Stands` is what matters of a rehearsal between two calls, and
`Play.Passes` says that it comes by such a place on its way to the end.
-/

namespace Rollout

open Update

def Group.tellings (g : Group) : Call → List Note
  | .destroy i reason => (g.destroy i.id reason).2
  | _ => []

namespace Rehearsal

open Simulation (notesOf)

/-- Calls take no time, and nobody else acts at them. -/
structure Setup.Prompt (setup : Setup) : Prop where
  delay_eq : ∀ kind, setup.delay kind = 0
  hooks_eq : setup.hooks = []

theorem Setup.Prompt.actionsAt_eq {setup : Setup} (h : setup.Prompt) (kind : Call.Kind)
    (number : Nat) (moment : Moment) : setup.actionsAt kind number moment = [] := by
  simp [Setup.actionsAt, h.hooks_eq]

namespace Play

/-- A rehearsal over a group stands somewhere with no call in progress, and was told so much. The
update was not told to stop. -/
structure Stands (agenda : List (Nat × Action)) (now : Nat) (g : Group) (status : Status)
    (told : List (Nat × Note)) (p : Play) : Prop where
  now_eq : p.now = now
  backend_eq : p.world.backend = .group g
  going : p.world.stopped = false
  status_eq : p.status = status
  begun_eq : p.begun = none
  agenda_eq : p.agenda = agenda
  told_eq : notesOf p = told

abbrev Made (agenda : List (Nat × Action)) (now : Nat) (g : Group) (told : List (Nat × Note))
    (move : Move) : Play → Prop :=
  Stands agenda now g move.status (told ++ move.notes.map (Prod.mk now))

theorem made_nil (agenda : List (Nat × Action)) (now : Nat) (g : Group) (status : Status)
    (told : List (Nat × Note)) :
    Made agenda now g told ⟨status, []⟩ = Stands agenda now g status told := by
  rw [Made, List.map_nil, List.append_nil]

/-- On its way to the end a rehearsal comes by a place. -/
def Passes (setup : Setup) (period deadline : Nat) (P : Play → Prop) (p : Play) : Prop :=
  ∃ q, p.finish setup period deadline = q.finish setup period deadline ∧ P q

section Passes

variable {setup : Setup} {period deadline : Nat} {P Q : Play → Prop} {p q : Play}

theorem Passes.here (h : P p) : p.Passes setup period deadline P := ⟨p, rfl, h⟩

theorem Passes.of_step (hstep : p.step setup period deadline = some q)
    (h : q.Passes setup period deadline P) : p.Passes setup period deadline P := by
  obtain ⟨r, hfinish, hr⟩ := h
  exact ⟨r, (finish_of_step hstep).trans hfinish, hr⟩

theorem Passes.trans (h : p.Passes setup period deadline P)
    (hP : ∀ q, P q → q.Passes setup period deadline Q) : p.Passes setup period deadline Q := by
  obtain ⟨q, hfinish, hq⟩ := h
  obtain ⟨r, hrest, hr⟩ := hP q hq
  exact ⟨r, hfinish.trans hrest, hr⟩

end Passes

@[simp] theorem notesOf_tell (p : Play) (notes : List Note) :
    notesOf (p.tell notes) = notesOf p ++ notes.map (Prod.mk p.now) := by
  simp [notesOf, tell, List.filterMap_map]

variable {setup : Setup} {period deadline now : Nat} {agenda : List (Nat × Action)} {g : Group}
  {status : Status} {told : List (Nat × Note)} {p q : Play}

theorem due?_eq_none (h : ∀ e ∈ p.agenda, p.now < e.1) : p.due? = none := by
  unfold due?
  cases hagenda : p.agenda with
  | nil => rfl
  | cons e rest =>
      have hlater : p.now < e.1 := h e (hagenda ▸ List.mem_cons_self)
      simp [Nat.not_le.2 hlater]

theorem step_of_next {next : Play} (h : ∀ e ∈ p.agenda, p.now < e.1)
    (hnext : p.next setup period = .now next) : p.step setup period deadline = some next := by
  rw [step, due?_eq_none h, hnext]

@[simp] theorem act_nil (p : Play) (plan : Plan) : p.act plan [] = p := by
  simp [act, World.actAll, tell]

theorem begin_eq (hprompt : setup.Prompt) (p : Play) (kind : Call.Kind) :
    p.begin setup kind =
      { p with
        world := { p.world with calls := p.world.calls.bump kind }
        begun := some ⟨p.now, p.now⟩ } := by
  simp [Play.begin, hprompt.actionsAt_eq, hprompt.delay_eq]

theorem tellings_eq (listing : Nat) (g : Group) (call : Call) :
    ((Backend.group g).answer listing call).2.2 = g.tellings call := by
  cases call <;> rfl

theorem made_complete (hprompt : setup.Prompt) (hbackend : p.world.backend = .group g)
    (hgoing : p.world.stopped = false) (stage : Stage) (since : Nat) :
    Made p.agenda p.now (g.answer stage.call).2
      (notesOf p ++ (g.tellings stage.call).map (Prod.mk p.now))
      (setup.plan.resume period p.now stage (g.answer stage.call).1)
      (p.complete setup period stage since) := by
  obtain ⟨hanswer, hafter⟩ := Backend.answer_group p.world.calls.list g stage.call
  have htellings := tellings_eq p.world.calls.list g stage.call
  rw [← hbackend] at hanswer hafter htellings
  rw [← hanswer, ← htellings]
  unfold Play.complete
  simp only [hprompt.actionsAt_eq, act_nil]
  refine ⟨rfl, hafter, hgoing, rfl, rfl, rfl, ?_⟩
  exact (notesOf_tell _ _).trans (by simp [tell, notesOf])

/-- A call is made and answered at the same time. -/
theorem Stands.answer (hprompt : setup.Prompt) {stage : Stage}
    (h : p.Stands agenda now g (.calling stage) told) (hlater : ∀ e ∈ agenda, now < e.1) :
    p.Passes setup period deadline
      (Made agenda now (g.answer stage.call).2 (told ++ (g.tellings stage.call).map (Prod.mk now))
        (setup.plan.resume period now stage (g.answer stage.call).1)) := by
  obtain ⟨rfl, hbackend, hgoing, hstatus, hbegun, rfl, rfl⟩ := h
  have hbegin : p.next setup period = .now (p.begin setup stage.call.kind) := by
    simp [Play.next, hstatus, hbegun]
  apply Passes.of_step (step_of_next hlater hbegin)
  rw [begin_eq hprompt]
  let q : Play :=
    { p with
      world := { p.world with calls := p.world.calls.bump stage.call.kind }
      begun := some ⟨p.now, p.now⟩ }
  have hcomplete : q.next setup period = .now (q.complete setup period stage p.now) := by
    simp [Play.next, q, hstatus]
  have hstep : q.step setup period deadline = some (q.complete setup period stage p.now) :=
    step_of_next hlater hcomplete
  apply Passes.of_step hstep
  exact .here (made_complete (p := q) hprompt hbackend hgoing stage p.now)

/-! ## Waits -/

theorem nextTime_eq {time : Nat} (h : ∀ e ∈ p.agenda, min deadline time ≤ e.1) :
    p.nextTime deadline time = min deadline time := by
  unfold nextTime
  cases hagenda : p.agenda with
  | nil => rfl
  | cons e rest =>
      have hother : min deadline time ≤ e.1 := h e (hagenda ▸ List.mem_cons_self)
      simp only
      omega

theorem step_of_later {time : Nat} (h : ∀ e ∈ p.agenda, p.now < e.1)
    (hnext : p.next setup period = .later time) (hdeadline : p.now < deadline) :
    p.step setup period deadline = some { p with now := p.nextTime deadline time } := by
  simp [step, due?_eq_none h, hnext, Nat.not_le.2 hdeadline]

section Waits

variable {aim : Aim} {ticker : Ticker}

theorem next_of_waiting (hstatus : p.status = .waiting aim ticker) (hgoing : p.world.stopped = false)
    (hdue : p.now < ticker.due) : p.next setup period = .later ticker.due := by
  simp [Play.next, hstatus, Plan.wake, hgoing, Nat.not_le.2 hdue]

theorem Stands.tick_of_due (h : p.Stands agenda now g (.waiting aim ticker) told)
    (hlater : ∀ e ∈ agenda, now < e.1) (hdue : ticker.due ≤ now) :
    p.Passes setup period deadline
      (Stands agenda now g (.calling (.poll aim (ticker.advance now))) told) := by
  obtain ⟨rfl, hbackend, hgoing, hstatus, hbegun, rfl, rfl⟩ := h
  have hnext : p.next setup period =
      .now (p.enter ⟨.calling (.poll aim (ticker.advance p.now)), []⟩) := by
    simp [Play.next, hstatus, Plan.wake, hgoing, hdue]
  apply Passes.of_step (step_of_next hlater hnext)
  exact .here ⟨rfl, hbackend, hgoing, rfl, rfl, rfl, (notesOf_tell p []).trans (by simp)⟩

theorem Stands.tick (h : p.Stands agenda now g (.waiting aim ticker) told)
    (hlater : ∀ e ∈ agenda, max now ticker.due < e.1) (hdeadline : max now ticker.due ≤ deadline) :
    p.Passes setup period deadline (Stands agenda (max now ticker.due) g
      (.calling (.poll aim (ticker.advance (max now ticker.due)))) told) := by
  rcases Nat.lt_or_ge now ticker.due with hdue | hdue
  · rw [max_eq_right hdue.le] at hlater hdeadline ⊢
    obtain ⟨rfl, hbackend, hgoing, hstatus, hbegun, rfl, rfl⟩ := h
    have hsoon : ∀ e ∈ p.agenda, p.now < e.1 := fun e he => hdue.trans (hlater e he)
    have hnext : p.next setup period = .later ticker.due := next_of_waiting hstatus hgoing hdue
    apply Passes.of_step (step_of_later hsoon hnext (hdue.trans_le hdeadline))
    have htime : p.nextTime deadline ticker.due = ticker.due := by
      rw [nextTime_eq, min_eq_right hdeadline]
      exact fun e he => (Nat.min_le_right _ _).trans (hlater e he).le
    rw [htime]
    have hjumped : Stands p.agenda ticker.due g (.waiting aim ticker) (notesOf p)
        { p with now := ticker.due } := ⟨rfl, hbackend, hgoing, hstatus, hbegun, rfl, rfl⟩
    exact hjumped.tick_of_due hlater (Nat.le_refl _)
  · rw [max_eq_left hdue] at hlater hdeadline ⊢
    exact h.tick_of_due hlater hdue

theorem Stands.finish_of_lt (h : p.Stands agenda now g (.waiting aim ticker) told)
    (hnow : now ≤ deadline) (hdue : deadline < ticker.due) (hlater : ∀ e ∈ agenda, deadline < e.1) :
    (p.finish setup period deadline).Stands agenda deadline g (.waiting aim ticker) told := by
  have hover {q : Play} (hq : q.Stands agenda deadline g (.waiting aim ticker) told) :
      q.finish setup period deadline = q := by
    apply finish_of_step_eq_none
    obtain ⟨rfl, -, hgoing, hstatus, -, rfl, -⟩ := hq
    simp [step, due?_eq_none hlater, next_of_waiting hstatus hgoing hdue]
  rcases hnow.lt_or_eq with hnow | rfl
  · obtain ⟨rfl, hbackend, hgoing, hstatus, hbegun, rfl, rfl⟩ := h
    have hsoon : ∀ e ∈ p.agenda, p.now < e.1 := fun e he => hnow.trans (hlater e he)
    have hnext : p.next setup period = .later ticker.due :=
      next_of_waiting hstatus hgoing (hnow.trans hdue)
    have htime : p.nextTime deadline ticker.due = deadline := by
      rw [nextTime_eq, min_eq_left hdue.le]
      exact fun e he => (Nat.min_le_left _ _).trans (hlater e he).le
    have hjumped : Stands p.agenda deadline g (.waiting aim ticker) (notesOf p)
        { p with now := deadline } := ⟨rfl, hbackend, hgoing, hstatus, hbegun, rfl, rfl⟩
    rw [finish_of_step (step_of_later hsoon hnext hnow), htime, hover hjumped]
    exact hjumped
  · rw [hover h]
    exact h

theorem Stands.finish_of_stop {time : Nat}
    (h : p.Stands [(time, .stop)] now g (.waiting aim ticker) told) (hnow : now < time)
    (hdue : time ≤ ticker.due) (hdeadline : time ≤ deadline) :
    (p.finish setup period deadline).status = .ended (.failed .halted) ∧
      (p.finish setup period deadline).world.backend = .group g := by
  obtain ⟨rfl, hbackend, hgoing, hstatus, hbegun, hagenda, -⟩ := h
  have hsoon : ∀ e ∈ p.agenda, p.now < e.1 := by simpa [hagenda] using hnow
  have hnext : p.next setup period = .later ticker.due :=
    next_of_waiting hstatus hgoing (hnow.trans_le hdue)
  have htime : p.nextTime deadline ticker.due = time := by
    simp only [nextTime, hagenda]
    omega
  rw [finish_of_step (step_of_later hsoon hnext (hnow.trans_le hdeadline)), htime]
  let told : Play := { p with now := time, agenda := [] }.act setup.plan [.stop]
  have hstop : step { p with now := time } setup period deadline = some told := by
    simp [step, due?, hagenda, told]
  rw [finish_of_step hstop]
  let halted : Play := told.enter (.fail .halted [.halted setup.plan.description])
  have hhalt : told.step setup period deadline = some halted := by
    apply step_of_next
    · exact fun e he => absurd he List.not_mem_nil
    · have hstands : told.status = .waiting aim ticker := hstatus
      have hstopped : told.world.stopped = true := rfl
      simp [Play.next, hstands, hstopped, Plan.wake, halted]
  rw [finish_of_step hhalt]
  have hover : halted.step setup period deadline = none := rfl
  rw [finish_of_step_eq_none hover]
  exact ⟨rfl, hbackend⟩

end Waits

theorem Stands.finish_of_ended {ending : Ending} (h : p.Stands [] now g (.ended ending) told) :
    p.finish setup period deadline = p := by
  apply finish_of_step_eq_none
  simp [step, due?, Play.next, h.agenda_eq, h.status_eq]

/-! ## Updates that nobody disturbs -/

section Alone

variable {s t : Site}

/-- A rehearsal goes with an update that is left alone and never late. -/
theorem Stands.alone (hprompt : setup.Prompt) (hperiod : s.period = period)
    (hgoing : s.point.stopped = false)
    (hstep : Site.Alone setup.plan (fun late => late = 0) s t)
    (h : p.Stands agenda s.point.now s.group s.point.status told)
    (hlater : ∀ e ∈ agenda, t.point.now < e.1) (hdeadline : t.point.now ≤ deadline) :
    p.Passes setup period deadline fun q =>
      ∃ told, q.Stands agenda t.point.now t.group t.point.status told := by
  cases hs : s.point.status with
  | ended ending => exact absurd hstep (Site.not_alone_of_ended hs)
  | waiting aim ticker =>
      obtain ⟨late, rfl, rfl⟩ := (Site.alone_iff_of_waiting hgoing hs).1 hstep
      rw [hs] at h
      apply (h.tick hlater hdeadline).trans
      intro q hq
      exact .here ⟨told, hq⟩
  | calling stage =>
      obtain ⟨late, rfl, rfl⟩ := (Site.alone_iff_of_calling hgoing hs).1 hstep
      rw [hs] at h
      apply (h.answer hprompt hlater).trans
      intro q hq
      rw [← hperiod] at hq
      exact .here ⟨_, hq⟩

theorem now_le_of_alone {plan : Plan} {lag : Nat → Prop} (h : Site.Alone plan lag s t) :
    s.point.now ≤ t.point.now := by
  obtain ⟨-, -, late, -, hnow⟩ := h
  have hearliest : s.point.now ≤ s.point.earliest := by
    unfold Point.earliest
    split
    · exact Nat.le_max_left _ _
    · exact Nat.le_refl _
  omega

theorem period_of_alone {plan : Plan} {lag : Nat → Prop} (h : Site.Alone plan lag s t) :
    t.period = s.period := by
  obtain ⟨hstep, -⟩ := h
  cases hstep <;> rfl

theorem now_le_of_alone_steps {plan : Plan} {lag : Nat → Prop}
    (h : Relation.ReflTransGen (Site.Alone plan lag) s t) : s.point.now ≤ t.point.now := by
  induction h with
  | refl => exact Nat.le_refl _
  | tail _ hstep ih => exact ih.trans (now_le_of_alone hstep)

theorem Stands.alone_steps (hprompt : setup.Prompt)
    (hsteps : Relation.ReflTransGen (Site.Alone setup.plan fun late => late = 0) s t)
    (hperiod : s.period = period) (hgoing : s.point.stopped = false)
    (h : p.Stands agenda s.point.now s.group s.point.status told)
    (hlater : ∀ e ∈ agenda, t.point.now < e.1) (hdeadline : t.point.now ≤ deadline) :
    p.Passes setup period deadline fun q =>
      ∃ told, q.Stands agenda t.point.now t.group t.point.status told := by
  induction hsteps using Relation.ReflTransGen.head_induction_on generalizing p told with
  | refl => exact .here ⟨told, h⟩
  | head hstep hrest ih =>
      have hnow := now_le_of_alone_steps hrest
      have hnext := h.alone hprompt hperiod hgoing hstep
        (fun e he => hnow.trans_lt (hlater e he)) (hnow.trans hdeadline)
      apply hnext.trans
      rintro q ⟨told, hq⟩
      exact ih ((period_of_alone hstep).trans hperiod) hstep.2.1 hq

end Alone

end Play

end Rehearsal

end Rollout
