import Rollout.Rehearsal.Play

/-!
# Rehearsals come to an end

Every step of a rehearsal lowers a weight: the time left until the deadline, then the number of
actions left to others, then the number of ticks that are overdue, then the distance of the
update from its next wait, and last the calls not yet begun. `Play.finish` makes all steps there
are.
-/

namespace Rollout.Rehearsal

open Update

/-- How many milliseconds ago the next tick of a poll or of a wait became due. -/
def slack (now : Nat) : Status → Nat
  | .waiting _ ticker => now + 1 - ticker.due
  | .calling (.poll _ ticker) => now + 1 - ticker.due
  | .calling (.probe _ ticker _ _ _) => now + 1 - ticker.due
  | _ => 0

/-- How many kinds of stages are left until the next wait. -/
def rank : Status → Nat
  | .ended _ => 0
  | .waiting .. => 1
  | .calling (.destroy ..) => 2
  | .calling (.choose _) => 3
  | .calling (.probe ..) => 4
  | .calling (.poll ..) => 5
  | .calling .survey => 6

def unasked : Status → Nat
  | .calling (.probe _ _ _ _ rest) => rest.length
  | _ => 0

def Nearer (now : Nat) (s t : Status) : Prop :=
  slack now s ≤ slack now t ∧ (rank s < rank t ∨ rank s = rank t ∧ unasked s < unasked t)

theorem slack_await (period now : Nat) (aim : Aim) : slack now (await period now aim) = 0 := by
  unfold await
  split
  next h => exact Nat.sub_eq_zero_of_le (Ticker.lt_due_start period now h)
  next => rfl

theorem rank_await (period now : Nat) (aim : Aim) : rank (await period now aim) ≤ 1 := by
  unfold await
  split <;> simp [rank]

theorem settle_nearer (plan : Plan) (now : Nat) (aim : Aim) (ticker : Ticker) (tally : Tally) :
    slack now (plan.settle aim ticker tally).status ≤ now + 1 - ticker.due ∧
      rank (plan.settle aim ticker tally).status ≤ 3 := by
  unfold Plan.settle
  split
  · split <;> simp [slack, rank]
  · simp [slack, rank]

theorem pollOn_nearer (plan : Plan) (now : Nat) (aim : Aim) (ticker : Ticker) (tally : Tally)
    (rest : List Instance) :
    slack now (plan.pollOn aim ticker tally rest).status ≤ now + 1 - ticker.due ∧
      (rank (plan.pollOn aim ticker tally rest).status < 4 ∨
        rank (plan.pollOn aim ticker tally rest).status = 4 ∧
          unasked (plan.pollOn aim ticker tally rest).status + 1 = rest.length) := by
  cases rest with
  | nil =>
    have := settle_nearer plan now aim ticker tally
    simp only [Plan.pollOn]
    omega
  | cons current rest => simp [Plan.pollOn, slack, rank, unasked]

theorem fail_nearer (now : Nat) (fault : Fault) (notes : List Note) (stage : Stage) :
    Nearer now (Move.fail fault notes).status (.calling stage) := by
  cases stage <;> simp [Nearer, Move.fail, slack, rank]

theorem probe_nearer (plan : Plan) (now : Nat) (aim : Aim) (ticker : Ticker) (tally next : Tally)
    (current : Instance) (rest : List Instance) :
    Nearer now (plan.pollOn aim ticker next rest).status
      (.calling (.probe aim ticker tally current rest)) := by
  obtain ⟨hslack, hrank | ⟨hrank, hunasked⟩⟩ := pollOn_nearer plan now aim ticker next rest
  · exact ⟨hslack, .inl hrank⟩
  · exact ⟨hslack, .inr ⟨hrank, Nat.lt_of_succ_le (Nat.le_of_eq hunasked)⟩⟩

theorem resume_nearer (plan : Plan) (period now : Nat) (stage : Stage)
    (answer : stage.call.Answer) :
    Nearer now (plan.resume period now stage answer).status (.calling stage) := by
  cases stage with
  | survey =>
    cases answer with
    | error => exact fail_nearer ..
    | ok snapshot =>
      have hs := slack_await period now (.replace (plan.target.wanted snapshot).length)
      have hr := rank_await period now (.replace (plan.target.wanted snapshot).length)
      exact ⟨Nat.le_of_eq hs, .inl (Nat.lt_of_le_of_lt hr (by decide))⟩
  | poll aim ticker =>
    cases answer with
    | error => exact fail_nearer ..
    | ok snapshot =>
      obtain ⟨hslack, hrank⟩ := pollOn_nearer plan now aim ticker {} (plan.target.wanted snapshot)
      refine ⟨hslack, .inl (show rank _ < 5 from ?_)⟩
      rcases hrank with hrank | ⟨hrank, -⟩
      · exact Nat.lt_succ_of_lt hrank
      · exact Nat.lt_succ_of_le (Nat.le_of_eq hrank)
  | probe aim ticker tally current rest =>
    cases answer with
    | healthy => exact probe_nearer ..
    | unhealthy => exact fail_nearer ..
    | unknown => exact probe_nearer ..
  | choose expected =>
    cases answer with
    | error => exact fail_nearer ..
    | ok snapshot =>
      simp only [Plan.resume, Plan.proceed]
      split <;> simp [Nearer, slack, rank]
  | destroy expected victim =>
    have hs := slack_await period now (.replace (expected + 1))
    have hr := rank_await period now (.replace (expected + 1))
    exact ⟨Nat.le_of_eq hs, .inl (Nat.lt_succ_of_le hr)⟩

/-- A wait goes on by an end, or by a poll that makes up for a tick. -/
theorem wake_nearer {plan : Plan} {now : Nat} {stopped : Bool} {aim : Aim} {ticker : Ticker}
    {move : Move} (h : plan.wake now stopped aim ticker = some move) :
    slack now move.status < slack now (.waiting aim ticker) ∨
      Nearer now move.status (.waiting aim ticker) := by
  unfold Plan.wake at h
  split at h
  · obtain rfl := Option.some.inj h
    exact .inr (by simp [Nearer, Move.fail, slack, rank])
  · split at h
    · rename_i hdue
      obtain rfl := Option.some.inj h
      have := Ticker.due_lt_advance hdue
      refine .inl ?_
      simp only [slack]
      omega
    · simp at h

namespace Play

/-- What every step of a rehearsal lowers. -/
def weight (deadline : Nat) (p : Play) : Nat × Nat × Nat × Nat × Nat × Nat :=
  (deadline - p.now, p.agenda.length, slack p.now p.status, rank p.status, unasked p.status,
    if p.begun.isSome then 0 else 1)

theorem weight_act (deadline : Nat) (p : Play) (plan : Plan) (actions : List Action) :
    (p.act plan actions).weight deadline = p.weight deadline := rfl

theorem next_later {p : Play} {setup : Setup} {period time : Nat}
    (h : p.next setup period = .later time) : p.now < time := by
  unfold next at h
  split at h
  · simp at h
  · split at h
    · simp at h
    · rename_i hwake
      obtain rfl := Next.later.inj h
      unfold Plan.wake at hwake
      grind
  · split at h
    · simp at h
    · split at h
      · simp at h
      · grind

theorem next_now {p q : Play} {setup : Setup} {period : Nat} (h : p.next setup period = .now q) :
    q.now = p.now ∧ q.agenda = p.agenda ∧
      (slack p.now q.status < slack p.now p.status ∨ Nearer p.now q.status p.status ∨
        q.status = p.status ∧ p.begun = none ∧ q.begun.isSome) := by
  unfold next at h
  split at h
  · simp at h
  · rename_i hstatus
    split at h
    · rename_i hwake
      obtain rfl := Next.now.inj h
      have := wake_nearer hwake
      exact ⟨rfl, rfl, this.elim (fun h => .inl (hstatus ▸ h)) fun h => .inr (.inl (hstatus ▸ h))⟩
    · simp at h
  · rename_i stage hstatus
    split at h
    · rename_i hbegun
      obtain rfl := Next.now.inj h
      exact ⟨rfl, rfl, .inr (.inr ⟨rfl, hbegun, rfl⟩)⟩
    · split at h
      · obtain rfl := Next.now.inj h
        exact ⟨rfl, rfl, .inr (.inl (hstatus ▸ resume_nearer ..))⟩
      · simp at h

theorem step_lt {p q : Play} {setup : Setup} {period deadline : Nat}
    (h : p.step setup period deadline = some q) :
    WellFoundedRelation.rel (q.weight deadline) (p.weight deadline) := by
  unfold step at h
  split at h
  · rename_i action agenda hdue
    obtain rfl := Option.some.inj h
    rw [weight_act]
    unfold due? at hdue
    split at hdue
    · simp at hdue
    · rename_i hagenda
      split at hdue
      · simp only [Option.some.injEq, Prod.mk.injEq] at hdue
        obtain ⟨-, rfl⟩ := hdue
        refine .right _ (.left _ _ ?_)
        rw [hagenda]
        exact Nat.lt_succ_self _
      · simp at hdue
  · rename_i hdue
    split at h
    · simp at h
    · rename_i hnext
      obtain rfl := Option.some.inj h
      obtain ⟨hnow, hagenda, hlower⟩ := next_now hnext
      simp only [weight, hnow, hagenda]
      refine .right _ (.right _ ?_)
      rcases hlower with hslack | ⟨hslack, hrank⟩ | ⟨hstatus, hnone, hsome⟩
      · exact .left _ _ hslack
      · rcases Nat.lt_or_eq_of_le hslack with hslack | hslack
        · exact .left _ _ hslack
        · rw [hslack]
          refine .right _ ?_
          rcases hrank with hrank | ⟨hrank, hleft⟩
          · exact .left _ _ hrank
          · rw [hrank]
            exact .right _ (.left _ _ hleft)
      · rw [hstatus, hnone, hsome]
        exact .right _ (.right _ (.right _ Nat.zero_lt_one))
    · rename_i time hnext
      split at h
      · simp at h
      · rename_i hdeadline
        obtain rfl := Option.some.inj h
        have hlater := next_later hnext
        have htime : p.now < p.nextTime deadline time := by
          unfold nextTime
          unfold due? at hdue
          split
          · omega
          · rename_i hagenda
            rw [hagenda] at hdue
            simp only at hdue
            split at hdue
            · simp at hdue
            · omega
        refine .left _ _ (show deadline - p.nextTime deadline time < deadline - p.now from ?_)
        omega

def finish (p : Play) (setup : Setup) (period deadline : Nat) : Play :=
  match _h : p.step setup period deadline with
  | none => p
  | some q => q.finish setup period deadline
termination_by p.weight deadline
decreasing_by exact step_lt _h

theorem finish_of_step {p q : Play} {setup : Setup} {period deadline : Nat}
    (h : p.step setup period deadline = some q) :
    p.finish setup period deadline = q.finish setup period deadline := by
  rw [finish]
  split <;> simp_all

theorem finish_of_step_eq_none {p : Play} {setup : Setup} {period deadline : Nat}
    (h : p.step setup period deadline = none) : p.finish setup period deadline = p := by
  rw [finish]
  split <;> simp_all

theorem step_finish (p : Play) (setup : Setup) (period deadline : Nat) :
    (p.finish setup period deadline).step setup period deadline = none := by
  fun_induction finish p setup period deadline with
  | case1 p h => exact h
  | case2 p q h ih => exact ih

end Play

end Rollout.Rehearsal
