import Rollout.Proofs.Transition

/-!
# Courses without idle time

A course leaves it open when an update goes on that waits. In a timely one it goes on as soon as it
can: when a tick is due, and at once when it is told to stop. How long calls take is still left
open.
-/

namespace Rollout.Update

/-- Up to a time an update has nothing to do but to wait. -/
def Point.Idle (plan : Plan) (p : Point) (now : Nat) : Prop :=
  ∀ aim ticker time, p.status = .waiting aim ticker → p.now ≤ time → time < now →
    plan.wake time p.stopped aim ticker = none

/-- A course in which no time passes at which the update could have gone on. -/
inductive Timely (plan : Plan) (period : Nat) (start : Point) :
    List (Nat × Event) → Point → Prop where
  | refl : Timely plan period start [] start
  | snoc {history : List (Nat × Event)} {p q : Point} {e : Nat × Event}
      (before : Timely plan period start history p) (step : Point.Step plan period p e q)
      (idle : p.Idle plan e.1) : Timely plan period start (history ++ [e]) q

variable {plan : Plan} {period : Nat} {p q : Point} {history : List (Nat × Event)}

/-- A poll begins when its tick is due, or as soon as the wait has come so far. -/
theorem Point.Idle.eq_max {now : Nat} {aim : Aim} {ticker : Ticker} (hidle : p.Idle plan now)
    (hwaits : p.status = .waiting aim ticker) (hgoing : p.stopped = false)
    (hlater : p.now ≤ now) (hdue : ticker.due ≤ now) : now = max p.now ticker.due := by
  by_contra hne
  have hnone := hidle aim ticker (max p.now ticker.due) hwaits (by omega) (by omega)
  simp [Plan.wake, hgoing] at hnone

theorem Point.Idle.of_waiting {now : Nat} {aim : Aim} {ticker : Ticker}
    (hwaits : p.status = .waiting aim ticker) (hgoing : p.stopped = false)
    (hnow : now ≤ max p.now ticker.due) : p.Idle plan now := by
  intro aim' ticker' time hwaits' hlater hearly
  obtain ⟨rfl, rfl⟩ : aim' = aim ∧ ticker' = ticker := by simpa [hwaits] using hwaits'.symm
  have hdue : ¬ticker'.due ≤ time := by omega
  simp [Plan.wake, hgoing, hdue]

theorem Point.Idle.of_calling {stage : Stage} (hcalls : p.status = .calling stage) (now : Nat) :
    p.Idle plan now := by
  intro aim ticker time hwaits
  simp [hcalls] at hwaits

theorem Timely.wake {start : Point} {status : Status} {notes : List Note} {now : Nat}
    (h : Timely plan period start history p) (later : p.now ≤ now) (aim : Aim) (ticker : Ticker)
    (waits : p.status = .waiting aim ticker)
    (goes : plan.wake now p.stopped aim ticker = some ⟨status, notes⟩) (idle : p.Idle plan now) :
    Timely plan period start (history ++ [(now, .wake)]) ⟨now, p.stopped, status⟩ :=
  h.snoc (.wake later waits goes) idle

theorem Timely.reply {start : Point} {status : Status} {now : Nat}
    (h : Timely plan period start history p) (later : p.now ≤ now) (stage : Stage)
    (answer : stage.call.Answer) (calls : p.status = .calling stage)
    (goes : (plan.resume period now stage answer).status = status) :
    Timely plan period start (history ++ [(now, .reply stage answer)])
      ⟨now, p.stopped, status⟩ := by
  rw [← goes]
  exact h.snoc (.reply later calls answer) (.of_calling calls now)

theorem wake_of_stopped (plan : Plan) (now : Nat) (aim : Aim) (ticker : Ticker) :
    plan.wake now true aim ticker = some (.fail .halted [.halted plan.description]) := rfl

theorem Point.Step.halt {aim : Aim} {ticker : Ticker} {now : Nat} (later : p.now ≤ now)
    (hstopped : p.stopped = true) (waits : p.status = .waiting aim ticker) :
    Point.Step plan period p (now, .wake) ⟨now, true, .ended (.failed .halted)⟩ := by
  have hwake : plan.wake now p.stopped aim ticker =
      some (.fail .halted [.halted plan.description]) := by
    rw [hstopped, wake_of_stopped]
  rw [← hstopped]
  exact .wake later waits hwake

theorem Point.Idle.le_of_stopped {now : Nat} {aim : Aim} {ticker : Ticker} (h : p.Idle plan now)
    (hstopped : p.stopped = true) (waits : p.status = .waiting aim ticker) : now ≤ p.now := by
  by_contra hlt
  have hnone := h aim ticker p.now waits (Nat.le_refl _) (Nat.lt_of_not_le hlt)
  rw [hstopped, wake_of_stopped] at hnone
  simp at hnone

/-- An update that waits and is told to stop ends before any time passes. Until then nothing can
happen but that it is told so again. -/
theorem Timely.halts {aim : Aim} {ticker : Ticker} (h : Timely plan period p history q)
    (hstopped : p.stopped = true) (waits : p.status = .waiting aim ticker) :
    (q = p ∧ ∀ e ∈ history, e = (p.now, .stop)) ∨
      q.status = .ended (.failed .halted) ∧ (p.now, .wake) ∈ history := by
  induction h with
  | refl => exact .inl ⟨rfl, by simp⟩
  | @snoc before m q e _ step idle ih =>
      rcases ih with ⟨rfl, hbefore⟩ | ⟨hended, hwake⟩
      · have hle := idle.le_of_stopped hstopped waits
        cases step with
        | @stop now later =>
            obtain rfl : now = m.now := Nat.le_antisymm hle later
            refine .inl ⟨by rw [← hstopped], ?_⟩
            intro e he
            rcases List.mem_append.1 he with he | he
            · exact hbefore e he
            · exact List.mem_singleton.1 he
        | @wake now _ _ _ later _ goes =>
            obtain rfl : now = m.now := Nat.le_antisymm hle later
            rcases wake_cases goes with ⟨-, hmove⟩ | ⟨hnot, -, -⟩
            · exact .inr ⟨hmove, by simp⟩
            · rw [hstopped] at hnot
              simp at hnot
        | reply _ calls => simp [waits] at calls
      · have hmem : (p.now, .wake) ∈ before ++ [e] := List.mem_append_left _ hwake
        cases step with
        | stop => exact .inr ⟨hended, hmem⟩
        | wake _ waits' => simp [hended] at waits'
        | reply _ calls => simp [hended] at calls

end Rollout.Update
