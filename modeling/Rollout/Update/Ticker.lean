/-!
# Tickers

A ticker says when the next poll is due. Ticks taken in time stay on the schedule on which the
ticker was started; after a tick that was taken late a new schedule begins, so that ticks that
were missed are not made up for. Nobody waits for longer than `longestWait`.
-/

namespace Rollout.Update

/-- The longest time for which anything is waited for: thirty years of 365 days, in milliseconds. -/
def longestWait : Nat := 30 * 365 * 24 * 60 * 60 * 1000

theorem longestWait_pos : 0 < longestWait := by decide

/-- When the next poll is due, on a clock that counts milliseconds. -/
structure Ticker where
  period : Nat
  due : Nat
  period_pos : 0 < period
  deriving DecidableEq, Repr

namespace Ticker

/-- How late a tick may be taken without a new schedule. -/
def tolerance : Nat := 5

def start (period now : Nat) (h : 0 < period) : Ticker :=
  let capped := min period longestWait
  ⟨capped, now + capped, Nat.lt_min.2 ⟨h, longestWait_pos⟩⟩

def advance (t : Ticker) (now : Nat) : Ticker :=
  { t with due := if now ≤ t.due + tolerance then t.due + t.period else now + t.period }

theorem lt_due_start (period now : Nat) (h : 0 < period) : now < (start period now h).due := by
  have := (start period now h).period_pos
  simp only [start] at this ⊢
  omega

theorem due_lt_advance {t : Ticker} {now : Nat} (h : t.due ≤ now) :
    t.due < (t.advance now).due := by
  have := t.period_pos
  simp only [advance]
  split <;> omega

end Ticker

end Rollout.Update
