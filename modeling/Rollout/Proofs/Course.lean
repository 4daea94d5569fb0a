import Mathlib.Data.List.Induction
import Rollout.Update.Status

/-!
# Courses of an update

A course is everything that happens to one run or one wait, up to any moment: the replies to its
calls, the ticks at which it goes on, and the times at which it is told to stop. Nothing is
assumed of the group: each call may be answered in any way and at any time. What an update does in
between is `Plan.resume` and `Plan.wake`, so that a statement about all courses holds of the
update over every backend, and up to the moment at which it ends or is abandoned.
-/

namespace Rollout.Update

structure Reply where
  call : Call
  answer : call.Answer

def Reply.isDestroy (r : Reply) : Bool := r.call.kind == .destroy

inductive Event where
  | stop
  | wake
  | reply (stage : Stage) (answer : stage.call.Answer)

/-- An update at one moment: the time of what happened last, whether it was told to stop, and
where it stands. -/
structure Point where
  now : Nat
  stopped : Bool
  status : Status

/-- What may happen next to an update, at what time, and where it stands then. -/
inductive Point.Step (plan : Plan) (period : Nat) : Point → Nat × Event → Point → Prop where
  | stop {p : Point} {now : Nat} (later : p.now ≤ now) :
      Step plan period p (now, .stop) ⟨now, true, p.status⟩
  | wake {p : Point} {now : Nat} {aim : Aim} {ticker : Ticker} {move : Move}
      (later : p.now ≤ now) (waits : p.status = .waiting aim ticker)
      (goes : plan.wake now p.stopped aim ticker = some move) :
      Step plan period p (now, .wake) ⟨now, p.stopped, move.status⟩
  | reply {p : Point} {now : Nat} {stage : Stage} (later : p.now ≤ now)
      (calls : p.status = .calling stage) (answer : stage.call.Answer) :
      Step plan period p (now, .reply stage answer)
        ⟨now, p.stopped, (plan.resume period now stage answer).status⟩

/-- The course of an update from one point to another, with all that happened and its times. -/
inductive Course (plan : Plan) (period : Nat) (start : Point) :
    List (Nat × Event) → Point → Prop where
  | refl : Course plan period start [] start
  | snoc {history : List (Nat × Event)} {p q : Point} {e : Nat × Event}
      (before : Course plan period start history p) (step : Point.Step plan period p e q) :
      Course plan period start (history ++ [e]) q

theorem wake_cases {plan : Plan} {now : Nat} {stopped : Bool} {aim : Aim} {ticker : Ticker}
    {move : Move} (h : plan.wake now stopped aim ticker = some move) :
    (stopped = true ∧ move.status = .ended (.failed .halted)) ∨
      (stopped = false ∧ ticker.due ≤ now ∧
        move.status = .calling (.poll aim (ticker.advance now))) := by
  unfold Plan.wake at h
  split at h
  · rename_i hstopped
    obtain rfl := Option.some.inj h
    exact .inl ⟨hstopped, rfl⟩
  · rename_i hstopped
    split at h
    · rename_i hdue
      obtain rfl := Option.some.inj h
      exact .inr ⟨by simpa using hstopped, hdue, rfl⟩
    · simp at h

def Event.reply? : Event → Option Reply
  | .reply stage answer => some ⟨stage.call, answer⟩
  | _ => none

def replies (history : List (Nat × Event)) : List Reply :=
  history.filterMap fun e => e.2.reply?

@[simp] theorem replies_nil : replies [] = [] := rfl

@[simp] theorem replies_append (xs ys : List (Nat × Event)) :
    replies (xs ++ ys) = replies xs ++ replies ys :=
  List.filterMap_append

@[simp] theorem replies_stop (now : Nat) : replies [(now, .stop)] = [] := rfl

@[simp] theorem replies_wake (now : Nat) : replies [(now, .wake)] = [] := rfl

@[simp] theorem replies_reply (now : Nat) (stage : Stage) (answer : stage.call.Answer) :
    replies [(now, .reply stage answer)] = [⟨stage.call, answer⟩] := rfl

theorem replies_cons_reply (now : Nat) (stage : Stage) (answer : stage.call.Answer)
    (history : List (Nat × Event)) :
    replies ((now, .reply stage answer) :: history) =
      ⟨stage.call, answer⟩ :: replies history := rfl

theorem Event.eq_reply_of_reply? {e : Event} {r : Reply} (h : e.reply? = some r) :
    ∃ stage answer, e = .reply stage answer ∧ r = ⟨stage.call, answer⟩ := by
  cases e with
  | stop | wake => simp [Event.reply?] at h
  | reply stage answer => exact ⟨stage, answer, rfl, (Option.some.inj h).symm⟩

theorem exists_of_replies_eq {history : List (Nat × Event)} {before after : List Reply} {r : Reply}
    (h : replies history = before ++ r :: after) :
    ∃ (first later : List (Nat × Event)) (time : Nat) (stage : Stage)
      (answer : stage.call.Answer), history = first ++ (time, .reply stage answer) :: later ∧
        r = ⟨stage.call, answer⟩ ∧ replies first = before ∧ replies later = after := by
  obtain ⟨first, rest, rfl, hfirst, hrest⟩ := List.filterMap_eq_append_iff.1 h
  obtain ⟨silent, ⟨time, event⟩, later, rfl, hsilent, hevent, hlater⟩ :=
    List.filterMap_eq_cons_iff.1 hrest
  obtain ⟨stage, answer, rfl, hr⟩ := Event.eq_reply_of_reply? hevent
  refine ⟨first ++ silent, later, time, stage, answer, by simp, hr, ?_, hlater⟩
  rw [replies_append, replies, replies, hfirst, List.filterMap_eq_nil_iff.2 hsilent,
    List.append_nil]

namespace Course

variable {plan : Plan} {period : Nat} {start p q : Point} {history later : List (Nat × Event)}

theorem wake {status : Status} {notes : List Note} {now : Nat}
    (h : Course plan period start history p) (later : p.now ≤ now) (aim : Aim) (ticker : Ticker)
    (waits : p.status = .waiting aim ticker)
    (goes : plan.wake now p.stopped aim ticker = some ⟨status, notes⟩) :
    Course plan period start (history ++ [(now, .wake)]) ⟨now, p.stopped, status⟩ :=
  h.snoc (.wake later waits goes)

theorem reply {status : Status} {now : Nat} (h : Course plan period start history p)
    (later : p.now ≤ now) (stage : Stage) (answer : stage.call.Answer)
    (calls : p.status = .calling stage)
    (goes : (plan.resume period now stage answer).status = status) :
    Course plan period start (history ++ [(now, .reply stage answer)])
      ⟨now, p.stopped, status⟩ := by
  rw [← goes]
  exact h.snoc (.reply later calls answer)

theorem append (h : Course plan period start history p)
    (hlater : Course plan period p later q) : Course plan period start (history ++ later) q := by
  induction hlater with
  | refl => simpa using h
  | snoc _ step ih =>
      rw [← List.append_assoc]
      exact ih.snoc step

theorem exists_of_concat {e : Nat × Event}
    (h : Course plan period start (history ++ [e]) q) :
    ∃ p, Course plan period start history p ∧ Point.Step plan period p e q := by
  generalize hwhole : history ++ [e] = whole at h
  cases h with
  | refl => simp at hwhole
  | snoc before step =>
      obtain ⟨rfl, hlast⟩ := List.append_inj' hwhole rfl
      obtain rfl := List.singleton_inj.1 hlast
      exact ⟨_, before, step⟩

theorem exists_of_append (h : Course plan period start (history ++ later) q) :
    ∃ p, Course plan period start history p ∧ Course plan period p later q := by
  induction later using List.reverseRecOn generalizing q with
  | nil => exact ⟨q, by simpa using h, .refl⟩
  | append_singleton later e ih =>
      rw [← List.append_assoc] at h
      obtain ⟨m, hbefore, hstep⟩ := h.exists_of_concat
      obtain ⟨p, hhistory, hlater⟩ := ih hbefore
      exact ⟨p, hhistory, hlater.snoc hstep⟩

/-- Nothing more happens to an update that has ended, but that it is told to stop. -/
theorem ended {ending : Ending} (h : Course plan period p history q)
    (hended : p.status = .ended ending) : q.status = .ended ending := by
  induction h with
  | refl => exact hended
  | snoc _ step ih =>
      cases step with
      | stop => exact ih
      | wake _ waits => simp [ih] at waits
      | reply _ calls => simp [ih] at calls

/-- The first reply after a call was begun is the reply to this call. -/
theorem replies_of_calling {stage : Stage} (h : Course plan period start history p)
    (hs : start.status = .calling stage) :
    (replies history = [] ∧ p.status = .calling stage) ∨
      ∃ now answer next after, replies history = ⟨stage.call, answer⟩ :: replies after ∧
        next.status = (plan.resume period now stage answer).status ∧
        Course plan period next after p := by
  induction h with
  | refl => exact .inl ⟨rfl, hs⟩
  | snoc _ step ih =>
      rcases ih with ⟨hnil, hp⟩ | ⟨now, answer, next, after, hreplies, hnext, hafter⟩
      · cases step with
        | stop => exact .inl ⟨by simpa using hnil, hp⟩
        | wake _ waits => simp [hp] at waits
        | @reply now stage' _ calls answer =>
            obtain rfl : stage = stage' := by simpa [hp] using calls
            exact .inr ⟨now, answer, _, [], by simp [hnil], rfl, .refl⟩
      · exact .inr ⟨now, answer, next, after ++ [_], by simp [hreplies], hnext, hafter.snoc step⟩

/-- The course of an update up to one of its replies, and from there on. -/
theorem exists_of_reply {time : Nat} {stage : Stage} {answer : stage.call.Answer}
    (h : Course plan period start (history ++ (time, .reply stage answer) :: later) p) :
    ∃ m q, Course plan period start history m ∧ m.status = .calling stage ∧
      q.status = (plan.resume period time stage answer).status ∧ Course plan period q later p := by
  rw [List.append_cons] at h
  obtain ⟨q, hq, hlater⟩ := h.exists_of_append
  obtain ⟨m, hm, hstep⟩ := hq.exists_of_concat
  cases hstep with
  | reply _ calls answer => exact ⟨m, _, hm, calls, rfl, hlater⟩

theorem replies_of_ended {ending : Ending} (h : Course plan period p history q)
    (hended : p.status = .ended ending) : replies history = [] := by
  induction h with
  | refl => rfl
  | snoc before step ih =>
      have hbefore := before.ended hended
      cases step with
      | stop => simpa using ih
      | wake _ waits => simp [hbefore] at waits
      | reply _ calls => simp [hbefore] at calls

end Course

end Rollout.Update
