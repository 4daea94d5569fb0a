import Rollout.Proofs.Gating
import Rollout.Proofs.Site

/-!
# Updates that nobody disturbs

An update that is left alone has one way to go on at each moment: its call is answered, or the
tick that it waits for comes. Only how long this takes is open, and `lag` says what may be.
`Inevitably` is what such an update comes to in every case, after finitely many steps; `Onward`
counts what it does meanwhile.
-/

namespace Rollout

/-- Whatever steps are taken, a place with a property is reached, and before it is reached there is
a step to take. -/
inductive Inevitably {α : Type} (step : α → α → Prop) (P : α → Prop) : α → Prop where
  | now {s : α} (h : P s) : Inevitably step P s
  | later {s : α} (can : ∃ t, step s t) (all : ∀ t, step s t → Inevitably step P t) :
      Inevitably step P s

namespace Inevitably

variable {α : Type} {step : α → α → Prop} {P Q : α → Prop} {s t : α}

theorem trans (h : Inevitably step Q s) (hQ : ∀ t, Q t → Inevitably step P t) :
    Inevitably step P s := by
  induction h with
  | now h => exact hQ _ h
  | later can _ ih => exact .later can ih

theorem mono (h : Inevitably step Q s) (hQ : ∀ t, Q t → P t) : Inevitably step P s :=
  h.trans fun t ht => .now (hQ t ht)

theorem exists_steps (h : Inevitably step P s) : ∃ t, Relation.ReflTransGen step s t ∧ P t := by
  induction h with
  | now h => exact ⟨_, .refl, h⟩
  | later can _ ih =>
      obtain ⟨u, hstep⟩ := can
      obtain ⟨t, hsteps, ht⟩ := ih u hstep
      exact ⟨t, .head hstep hsteps, ht⟩

/-- Where there is no step left, what is inevitable has come, if nothing comes after it. -/
theorem of_stuck (h : Inevitably step P s) (hlast : ∀ t, P t → ∀ u, ¬step t u)
    (hsteps : Relation.ReflTransGen step s t) (hstuck : ∀ u, ¬step t u) : P t := by
  induction h with
  | now h =>
      rcases hsteps.cases_head with rfl | ⟨u, hstep, -⟩
      · exact h
      · exact absurd hstep (hlast _ h u)
  | later can _ ih =>
      rcases hsteps.cases_head with rfl | ⟨u, hstep, hrest⟩
      · obtain ⟨u, hstep⟩ := can
        exact absurd hstep (hstuck u)
      · exact ih u hstep hrest

end Inevitably

namespace Update

/-- The earliest time at which an update can go on that is not told to stop. -/
def Point.earliest (p : Point) : Nat :=
  match p.status with
  | .waiting _ ticker => max p.now ticker.due
  | _ => p.now

namespace Site

/-- A step in which others leave the group alone and the update is not told to stop. It comes at
the earliest time, or later by so much as is allowed. -/
def Alone (plan : Plan) (lag : Nat → Prop) (s t : Site) : Prop :=
  Step plan (fun _ => False) s t ∧ t.point.stopped = false ∧
    ∃ late, lag late ∧ t.point.now = s.point.earliest + late

def afterReply (plan : Plan) (s : Site) (stage : Stage) (time : Nat) : Site where
  group := (s.group.answer stage.call).2
  period := s.period
  point := ⟨time, s.point.stopped,
    (plan.resume s.period time stage (s.group.answer stage.call).1).status⟩
  history := s.history ++ [(time, .reply stage (s.group.answer stage.call).1)]

def afterTick (s : Site) (aim : Aim) (ticker : Ticker) (time : Nat) : Site :=
  { s with
    point := ⟨time, s.point.stopped, .calling (.poll aim (ticker.advance time))⟩
    history := s.history ++ [(time, .wake)] }

variable {plan : Plan} {lag : Nat → Prop} {s t : Site} {stage : Stage} {aim : Aim}
  {ticker : Ticker}

theorem alone_iff_of_calling (hgoing : s.point.stopped = false)
    (hs : s.point.status = .calling stage) :
    Alone plan lag s t ↔ ∃ late, lag late ∧ t = s.afterReply plan stage (s.point.now + late) := by
  have hearliest : s.point.earliest = s.point.now := by simp [Point.earliest, hs]
  constructor
  · rintro ⟨hstep, hstopped, late, hlate, hnow⟩
    refine ⟨late, hlate, ?_⟩
    rw [hearliest] at hnow
    cases hstep with
    | change h => exact h.elim
    | @advance now event q step comes =>
        cases step with
        | stop => simp at hstopped
        | wake _ waits => simp [hs] at waits
        | @reply _ stage' _ calls answer =>
            obtain rfl : stage = stage' := by simpa [hs] using calls
            obtain rfl : now = s.point.now + late := hnow
            obtain rfl : answer = (s.group.answer stage.call).1 := comes
            rfl
  · rintro ⟨late, hlate, rfl⟩
    have hstep : Point.Step plan s.period s.point _ _ :=
      .reply (Nat.le_add_right s.point.now late) hs (s.group.answer stage.call).1
    exact ⟨.advance hstep rfl, hgoing, late, hlate, by rw [hearliest]; rfl⟩

theorem alone_iff_of_waiting (hgoing : s.point.stopped = false)
    (hs : s.point.status = .waiting aim ticker) :
    Alone plan lag s t ↔
      ∃ late, lag late ∧ t = s.afterTick aim ticker (max s.point.now ticker.due + late) := by
  have hearliest : s.point.earliest = max s.point.now ticker.due := by simp [Point.earliest, hs]
  constructor
  · rintro ⟨hstep, hstopped, late, hlate, hnow⟩
    refine ⟨late, hlate, ?_⟩
    rw [hearliest] at hnow
    cases hstep with
    | change h => exact h.elim
    | @advance now event q step comes =>
        cases step with
        | stop => simp at hstopped
        | reply _ calls => simp [hs] at calls
        | @wake _ aim' ticker' move _ waits goes =>
            obtain ⟨rfl, rfl⟩ : aim = aim' ∧ ticker = ticker' := by simpa [hs] using waits
            obtain rfl : now = max s.point.now ticker.due + late := hnow
            rcases wake_cases goes with ⟨hstop, -⟩ | ⟨-, -, hmove⟩
            · simp [hgoing] at hstop
            · rw [hmove]
              rfl
  · rintro ⟨late, hlate, rfl⟩
    have hlater : s.point.now ≤ max s.point.now ticker.due + late := by omega
    have hdue : ticker.due ≤ max s.point.now ticker.due + late := by omega
    have hwake : plan.wake (max s.point.now ticker.due + late) s.point.stopped aim ticker =
        some ⟨.calling (.poll aim (ticker.advance (max s.point.now ticker.due + late))), []⟩ := by
      simp [Plan.wake, hgoing, hdue]
    have hstep : Point.Step plan s.period s.point _ _ := .wake hlater hs hwake
    exact ⟨.advance hstep trivial, hgoing, late, hlate, by rw [hearliest]; rfl⟩

theorem not_alone_of_ended {ending : Ending} (hs : s.point.status = .ended ending) :
    ¬Alone plan lag s t := by
  rintro ⟨hstep, hstopped, -⟩
  cases hstep with
  | change h => exact h.elim
  | advance step _ =>
      cases step with
      | stop => simp at hstopped
      | wake _ waits => simp [hs] at waits
      | reply _ calls => simp [hs] at calls

end Site

/-! ## What is done on the way -/

def Reply.isList (r : Reply) : Bool := r.call.kind == .list

def listings (calls : List Reply) : Nat := calls.countP Reply.isList

@[simp] theorem listings_append (xs ys : List Reply) :
    listings (xs ++ ys) = listings xs + listings ys :=
  List.countP_append

/-- From one site to another an update went on alone, with so many destroys and listings; if
nothing is late, it took so long. -/
structure Onward (lag : Nat → Prop) (destroyed listed elapsed : Nat) (s t : Site) : Prop where
  period_eq : t.period = s.period
  going : t.point.stopped = false
  destroys_eq : destroys (replies t.history) = destroys (replies s.history) + destroyed
  listings_eq : listings (replies t.history) = listings (replies s.history) + listed
  now_eq : (∀ late, lag late → late = 0) → t.point.now = s.point.now + elapsed

variable {plan : Plan} {lag : Nat → Prop} {s t u : Site} {d d' l l' e e' : Nat}

theorem Onward.refl (lag : Nat → Prop) (hs : s.point.stopped = false) : Onward lag 0 0 0 s s :=
  ⟨rfl, hs, rfl, rfl, fun _ => rfl⟩

theorem Onward.trans (h : Onward lag d l e s t) (h' : Onward lag d' l' e' t u) :
    Onward lag (d + d') (l + l') (e + e') s u where
  period_eq := h'.period_eq.trans h.period_eq
  going := h'.going
  destroys_eq := by rw [h'.destroys_eq, h.destroys_eq, Nat.add_assoc]
  listings_eq := by rw [h'.listings_eq, h.listings_eq, Nat.add_assoc]
  now_eq := by
    intro hexact
    rw [h'.now_eq hexact, h.now_eq hexact, Nat.add_assoc]

theorem onward_afterReply (plan : Plan) (hgoing : s.point.stopped = false) (stage : Stage) {late : Nat}
    (hlate : lag late) :
    Onward lag (destroys [⟨stage.call, (s.group.answer stage.call).1⟩])
      (listings [⟨stage.call, (s.group.answer stage.call).1⟩]) 0 s
      (s.afterReply plan stage (s.point.now + late)) where
  period_eq := rfl
  going := hgoing
  destroys_eq := by simp [Site.afterReply]
  listings_eq := by simp [Site.afterReply]
  now_eq := by
    intro hexact
    exact congrArg (s.point.now + ·) (hexact late hlate)

theorem onward_afterTick (hgoing : s.point.stopped = false) (aim : Aim) (ticker : Ticker)
    {late : Nat} (hlate : lag late) :
    Onward lag 0 0 (ticker.due - s.point.now) s
      (s.afterTick aim ticker (max s.point.now ticker.due + late)) where
  period_eq := rfl
  going := hgoing
  destroys_eq := by simp [Site.afterTick]
  listings_eq := by simp [Site.afterTick]
  now_eq := by
    intro hexact
    have hnone := hexact late hlate
    simp only [Site.afterTick]
    omega

variable {P : Site → Prop}

theorem inevitably_of_calling (hlag : ∃ late, lag late) {stage : Stage}
    (hgoing : s.point.stopped = false) (hs : s.point.status = .calling stage)
    (h : ∀ t, Onward lag (destroys [⟨stage.call, (s.group.answer stage.call).1⟩])
        (listings [⟨stage.call, (s.group.answer stage.call).1⟩]) 0 s t →
      t.group = (s.group.answer stage.call).2 →
      t.point.status =
        (plan.resume s.period t.point.now stage (s.group.answer stage.call).1).status →
      Inevitably (Site.Alone plan lag) P t) : Inevitably (Site.Alone plan lag) P s := by
  obtain ⟨late, hlate⟩ := hlag
  apply Inevitably.later
  · exact ⟨_, (Site.alone_iff_of_calling hgoing hs).2 ⟨late, hlate, rfl⟩⟩
  · intro t hstep
    obtain ⟨late, hlate, rfl⟩ := (Site.alone_iff_of_calling hgoing hs).1 hstep
    exact h _ (onward_afterReply plan hgoing stage hlate) rfl rfl

theorem inevitably_of_waiting (hlag : ∃ late, lag late) {aim : Aim} {ticker : Ticker}
    (hgoing : s.point.stopped = false) (hs : s.point.status = .waiting aim ticker)
    (h : ∀ t next, Onward lag 0 0 (ticker.due - s.point.now) s t → t.group = s.group →
      t.point.status = .calling (.poll aim next) → Inevitably (Site.Alone plan lag) P t) :
    Inevitably (Site.Alone plan lag) P s := by
  obtain ⟨late, hlate⟩ := hlag
  apply Inevitably.later
  · exact ⟨_, (Site.alone_iff_of_waiting hgoing hs).2 ⟨late, hlate, rfl⟩⟩
  · intro t hstep
    obtain ⟨late, hlate, rfl⟩ := (Site.alone_iff_of_waiting hgoing hs).1 hstep
    exact h _ _ (onward_afterTick hgoing aim ticker hlate) rfl rfl

end Update

end Rollout
