import Rollout.Proofs.Wait

/-!
# How a run ends

The end of a run can be told from its last call: a listing that failed, an unhealthy instance, or a
listing in which nothing is left to replace right after a poll that found enough healthy instances.
A run that ends otherwise was told to stop. The last of these three looks like the beginning of
another poll, and `Waiting.false_of_met` says that it is not one.
-/

namespace Rollout.Update

namespace Poll

theorem kind_of_mem_asked {asked : List (Instance × Health)} {r : Reply}
    (h : r ∈ asked.map fun a => (⟨.health a.1, a.2⟩ : Reply)) : r.call.kind = .health := by
  obtain ⟨a, -, rfl⟩ := List.mem_map.1 h
  rfl

theorem eq_nil_of_replies_eq {p q : Poll} {xs : List Reply} (h : p.replies = xs ++ q.replies) :
    xs = [] := by
  cases xs with
  | nil => rfl
  | cons r xs =>
      obtain ⟨-, hasked⟩ := List.cons.inj h
      have hmem : (⟨.list, .ok q.snapshot⟩ : Reply) ∈
          p.asked.map fun a => (⟨.health a.1, a.2⟩ : Reply) := by
        rw [hasked, replies]
        simp
      simpa [Call.kind] using kind_of_mem_asked hmem

theorem eq_of_replies_eq {p q : Poll} (h : p.replies = q.replies) : p = q := by
  obtain ⟨hlist, hasked⟩ := List.cons.inj h
  have hsnapshot : p.snapshot = q.snapshot := by simpa using hlist
  have hinj : Function.Injective fun a : Instance × Health => (⟨.health a.1, a.2⟩ : Reply) := by
    rintro ⟨i, x⟩ ⟨j, y⟩ hreply
    obtain ⟨hcall, hanswer⟩ := Reply.mk.inj hreply
    obtain rfl : i = j := Call.health.inj hcall
    exact congrArg _ (eq_of_heq hanswer)
  have hasked := List.map_injective_iff.2 hinj hasked
  cases p
  cases q
  exact congrArg₂ mk hsnapshot hasked

/-- The latest poll can be told from the calls before it. -/
theorem append_replies_inj {p q : Poll} {xs ys : List Reply}
    (h : xs ++ p.replies = ys ++ q.replies) : xs = ys ∧ p = q := by
  rcases List.append_eq_append_iff.1 h with ⟨zs, rfl, hp⟩ | ⟨zs, rfl, hq⟩
  · obtain rfl := eq_nil_of_replies_eq hp
    exact ⟨by simp, eq_of_replies_eq hp⟩
  · obtain rfl := eq_nil_of_replies_eq hq
    exact ⟨by simp, (eq_of_replies_eq hq).symm⟩

end Poll

/-- The replies that end an update, and the fault with which it ends. -/
inductive Reply.Faults : Reply → Fault → Prop where
  | list (causes : List String) : Faults ⟨.list, .error causes⟩ (.snapshot causes)
  | health (i : Instance) : Faults ⟨.health i, .unhealthy⟩ (.unhealthy i.id)

/-- The last call was a listing in which nothing is left to replace, and just before it a poll found
enough healthy instances. -/
def Concluded (plan : Plan) (calls : List Reply) : Prop :=
  ∃ (first : List Instance) (before : List Reply) (poll : Poll) (choice : List Instance),
    calls = before ++ poll.replies ++ [⟨.list, .ok choice⟩] ∧
    [⟨.list, .ok first⟩] <+: before ∧ poll.Clean plan.target ∧
    min ((plan.target.wanted first).length + destroys before) plan.target.size ≤ poll.healthy ∧
    plan.target.unwanted choice = []

variable {plan : Plan} {period : Nat} {start p : Point} {history : List (Nat × Event)}
  {calls : List Reply} {expected : Nat}

theorem status_resume_of_faults {stage : Stage} {answer : stage.call.Answer} {fault : Fault}
    (h : Reply.Faults ⟨stage.call, answer⟩ fault) (plan : Plan) (period now : Nat) :
    (plan.resume period now stage answer).status = .ended (.failed fault) := by
  cases stage with
  | survey | poll | choose | probe =>
      cases h
      rfl
  | destroy => cases h

theorem Closes.faults {stage : Stage} {answer : stage.call.Answer} {fault : Fault}
    (h : Closes plan stage answer (.failed fault)) : Reply.Faults ⟨stage.call, answer⟩ fault := by
  cases h with
  | survey causes | poll _ _ causes | choose _ causes => exact .list causes
  | probe _ _ _ current => exact .health current

theorem Waiting.exists_first (h : Waiting plan (.replace expected) calls) :
    ∃ first, [⟨.list, .ok first⟩] <+: calls ∧
      expected = (plan.target.wanted first).length + destroys calls := by
  obtain ⟨first, k, earlier, polls, hup, hexpected, rfl, -⟩ := h.exists_polls rfl
  refine ⟨first, hup.begins.trans (List.prefix_append _ _), ?_⟩
  simpa [hup.destroys_eq] using hexpected

/-- A poll after which an update still waits has found too few healthy instances. -/
theorem Waiting.healthy_lt {aim : Aim} {before : List Reply} {poll : Poll}
    (h : Waiting plan aim (before ++ poll.replies)) (hbefore : before ≠ []) :
    Waiting plan aim before ∧ poll.healthy < aim.threshold plan := by
  generalize hcalls : before ++ poll.replies = calls at h
  cases h with
  | start => simp [Poll.replies] at hcalls
  | survey snapshot =>
      have hlength := congrArg List.length hcalls
      have hpos := List.length_pos_of_ne_nil hbefore
      simp [Poll.replies] at hlength
      omega
  | poll waits clean short =>
      obtain ⟨rfl, rfl⟩ := Poll.append_replies_inj hcalls
      exact ⟨waits, short⟩
  | @destroy _ _ _ _ _ victim =>
      have hlast := congrArg List.getLast? hcalls
      rw [List.getLast?_append_of_ne_nil _ (by simp [Poll.replies])] at hlast
      have hmem : (⟨.destroy victim .rollingUpdate, ()⟩ : Reply) ∈ poll.replies :=
        List.mem_of_getLast? (by simpa using hlast)
      have hnone := List.countP_eq_zero.1 (destroys_replies poll) _ hmem
      simp [Reply.isDestroy, Call.kind] at hnone

/-- A listing after a poll that ended a wait is not the beginning of another poll. -/
theorem Waiting.false_of_met {first : List Instance} {before : List Reply} {poll : Poll}
    (h : Waiting plan (.replace expected) (before ++ poll.replies))
    (hfirst : [⟨.list, .ok first⟩] <+: before)
    (hmet : min ((plan.target.wanted first).length + destroys before) plan.target.size ≤
      poll.healthy) : False := by
  obtain ⟨since, rfl⟩ := hfirst
  obtain ⟨waits, hshort⟩ := h.healthy_lt (by simp)
  obtain ⟨first', ⟨since', hsince⟩, hexpected⟩ := waits.exists_first
  obtain rfl : first' = first := by simpa using (List.cons.inj hsince).1
  rw [hexpected, Aim.threshold] at hshort
  omega

theorem Course.fault_final {before after : List Reply} {r : Reply} {fault : Fault}
    (h : Course plan period start history p) (hreplies : replies history = before ++ r :: after)
    (hfaults : r.Faults fault) : after = [] ∧ p.status = .ended (.failed fault) := by
  obtain ⟨first, later, time, stage, answer, rfl, rfl, -, rfl⟩ := exists_of_replies_eq hreplies
  obtain ⟨m, q, -, -, hq, hlater⟩ := h.exists_of_reply
  rw [status_resume_of_faults hfaults] at hq
  exact ⟨hlater.replies_of_ended hq, hlater.ended hq⟩

theorem Course.closes_of_survey {ending : Ending} (h : Course plan period start history p)
    (hstart : start.status = .calling .survey) (hperiod : 0 < period ∨ ending ≠ .noPeriod)
    (hend : p.status = .ended ending) :
    (ending = .failed .halted ∧ p.stopped = true) ∨
      ∃ before time stage answer after, history = before ++ (time, .reply stage answer) :: after ∧
        replies after = [] ∧ Closes plan stage answer ending := by
  apply h.closes hperiod
  · rw [hstart]
    trivial
  · simp [hstart]
  · exact hend

theorem Course.failed_iff {fault : Fault} (h : Course plan period start history p)
    (hstart : start.status = .calling .survey) (hfault : fault ≠ .halted) :
    p.status = .ended (.failed fault) ↔
      ∃ r, (replies history).getLast? = some r ∧ r.Faults fault := by
  constructor
  · intro hend
    rcases h.closes_of_survey hstart (.inr (by simp)) hend with
      ⟨hhalted, -⟩ | ⟨before, time, stage, answer, after, rfl, hafter, hcloses⟩
    · exact absurd (Ending.failed.inj hhalted) hfault
    · exact ⟨_, by simp [replies_cons_reply, hafter], hcloses.faults⟩
  · rintro ⟨r, hlast, hfaults⟩
    obtain ⟨before, hreplies⟩ := List.getLast?_eq_some_iff.1 hlast
    exact (h.fault_final hreplies hfaults).2

theorem Course.done_iff (h : Course plan period start history p)
    (hstart : start.status = .calling .survey) :
    p.status = .ended .done ↔ Concluded plan (replies history) := by
  constructor
  · intro hend
    rcases h.closes_of_survey hstart (.inr (by simp)) hend with
      ⟨hhalted, -⟩ | ⟨before, time, stage, answer, after, rfl, hafter, hcloses⟩
    · simp at hhalted
    cases hcloses with
    | nothing_left expected choice hnone =>
        obtain ⟨m, q, hm, hstatus, -, -⟩ := h.exists_of_reply
        have hstands := hm.stands (by rw [hstart]; rfl)
        rw [hstatus] at hstands
        generalize hcalls : replies before = calls at hstands
        obtain @⟨calls, poll, waits, clean, enough⟩ := hstands
        obtain ⟨first, hfirst, rfl⟩ := waits.exists_first
        refine ⟨first, calls, poll, choice, ?_, hfirst, clean, enough, hnone⟩
        rw [replies_append, replies_cons_reply, hafter, hcalls]
  · rintro ⟨first, before, poll, choice, hcalls, hfirst, -, hmet, hnone⟩
    obtain ⟨earlier, later, time, stage, answer, rfl, hlist, hearlier, hlater⟩ :=
      exists_of_replies_eq hcalls
    obtain ⟨m, q, hm, hstatus, hq, hafter⟩ := h.exists_of_reply
    have hstands := hm.stands (by rw [hstart]; rfl)
    have hrun := hm.ofRun (by rw [hstart]; trivial)
    rw [hstatus] at hstands hrun
    rw [hearlier] at hstands
    -- The last listing was made to choose, since the poll before it left nothing to wait for.
    cases stage with
    | survey => simp [Stands, Poll.replies] at hstands
    | probe | destroy => simp at hlist
    | poll aim ticker =>
        obtain ⟨expected, rfl⟩ := hrun
        exact (Waiting.false_of_met hstands hfirst hmet).elim
    | choose expected =>
        obtain rfl : answer = .ok choice := by simpa using hlist.symm
        exact hafter.ended (hq.trans (status_proceed_of_nil expected hnone))

theorem Reply.Faults.ne_halted {r : Reply} {fault : Fault} (h : r.Faults fault) :
    fault ≠ .halted := by
  cases h <;> simp

theorem Course.halted_iff {ending : Ending} (h : Course plan period start history p)
    (hperiod : 0 < period) (hstart : start.status = .calling .survey)
    (hend : p.status = .ended ending) :
    ending = .failed .halted ↔ ¬Concluded plan (replies history) ∧
      ∀ r fault, (replies history).getLast? = some r → ¬r.Faults fault := by
  constructor
  · rintro rfl
    constructor
    · intro hconcluded
      simp [(h.done_iff hstart).2 hconcluded] at hend
    · intro r fault hlast hfaults
      have hfailed := (h.failed_iff hstart hfaults.ne_halted).2 ⟨r, hlast, hfaults⟩
      obtain rfl : fault = .halted := by simpa [hfailed] using hend
      exact hfaults.ne_halted rfl
  · rintro ⟨hopen, hfine⟩
    cases ending with
    | done => exact absurd ((h.done_iff hstart).1 hend) hopen
    | noPeriod =>
        rcases h.closes_of_survey hstart (.inl hperiod) hend with
          ⟨hhalted, -⟩ | ⟨_, _, _, _, _, -, -, hcloses⟩
        · exact hhalted
        · cases hcloses
    | failed fault =>
        by_contra hne
        have hfault : fault ≠ .halted := fun heq => hne (congrArg Ending.failed heq)
        obtain ⟨r, hlast, hfaults⟩ := (h.failed_iff hstart hfault).1 hend
        exact hfine r fault hlast hfaults

theorem Course.requested_of_halted (h : Course plan period start history p)
    (hstart : start.status = .calling .survey) (hend : p.status = .ended (.failed .halted)) :
    requested start history = true := by
  rcases h.closes_of_survey hstart (.inr (by simp)) hend with
    ⟨-, hstopped⟩ | ⟨_, _, _, _, _, -, -, hcloses⟩
  · rw [← h.stopped_eq_requested]
    exact hstopped
  · cases hcloses

/-- A call to destroy an instance comes after a listing in which something is to be replaced. -/
theorem Course.exists_unwanted {victim : Instance}
    (h : Course plan period start history p) (hstart : start.status = .calling .survey)
    (hmem : .destroy expected victim ∈ answered history ++ p.status.inHand) :
    ∃ snapshot, ⟨.list, .ok snapshot⟩ ∈ replies history ∧ plan.target.unwanted snapshot ≠ [] := by
  obtain ⟨begun, hbegun⟩ := h.exists_begun
  rw [← show _ = _ from hbegun, hstart] at hmem
  have hopened : .destroy expected victim ∈ begun := by simpa [Status.inHand] using hmem
  obtain ⟨first, rest, m, rfl, hfirst, hstatus, -⟩ := h.split_of_begun hbegun hopened
  have hstands := hfirst.stands (by rw [hstart]; rfl)
  rw [hstatus] at hstands
  obtain ⟨before, choice, others, -, hchosen, hcalls⟩ := hstands
  refine ⟨choice, by simp [hcalls], ?_⟩
  intro hnil
  simp [Settings.destroyOrder_eq_nil_iff.2 hnil] at hchosen

/-- What the end of a run says of its calls. -/
structure Outcome (plan : Plan) (start : Point) (history : List (Nat × Event)) (p : Point) :
    Prop where
  /-- The first bad answer is the last one. -/
  final : ∀ before r after fault, replies history = before ++ r :: after → r.Faults fault →
    after = [] ∧ p.status = .ended (.failed fault)
  failed : ∀ fault, fault ≠ .halted → (p.status = .ended (.failed fault) ↔
    ∃ r, (replies history).getLast? = some r ∧ r.Faults fault)
  done : p.status = .ended .done ↔ Concluded plan (replies history)
  halted : ∀ ending, p.status = .ended ending → (ending = .failed .halted ↔
    ¬Concluded plan (replies history) ∧
      ∀ r fault, (replies history).getLast? = some r → ¬r.Faults fault)
  told : p.status = .ended (.failed .halted) → requested start history = true
  verdict : ∀ fault, p.status = .ended (.failed fault) →
    (fault.isHalted = true ↔ fault = .halted) ∧ (fault.isFatal = false ↔ fault = .halted)
  causes : ∀ fault causes, p.status = .ended (.failed fault) →
    (replies history).getLast? = some ⟨.list, .error causes⟩ → fault.causes = causes
  spared : (∀ snapshot, ⟨.list, .ok snapshot⟩ ∈ replies history →
      plan.target.unwanted snapshot = []) →
    ∀ stage ∈ answered history ++ p.status.inHand, stage.call.kind ≠ .destroy

/-- How a run ends can be told from its calls alone. -/
theorem outcome_of_course (hperiod : 0 < period) (hstart : start.status = .calling .survey)
    (h : Course plan period start history p) : Outcome plan start history p where
  final := by
    intro before r after fault hreplies hfaults
    exact h.fault_final hreplies hfaults
  failed := by
    intro fault hfault
    exact h.failed_iff hstart hfault
  done := h.done_iff hstart
  halted := by
    intro ending hend
    exact h.halted_iff hperiod hstart hend
  told := h.requested_of_halted hstart
  verdict := by
    intro fault _
    cases fault <;> simp [Fault.isHalted, Fault.isFatal]
  causes := by
    intro fault causes hend hlast
    have hsnapshot : p.status = .ended (.failed (.snapshot causes)) :=
      (h.failed_iff hstart (by simp)).2 ⟨_, hlast, .list causes⟩
    obtain rfl : fault = .snapshot causes := by simpa [hsnapshot] using hend.symm
    rfl
  spared := by
    intro hclean stage hmem hkind
    cases stage with
    | survey | poll | probe | choose => simp [Call.kind] at hkind
    | destroy expected victim =>
        obtain ⟨snapshot, hlisted, hunwanted⟩ := h.exists_unwanted hstart hmem
        exact hunwanted (hclean snapshot hlisted)

open Sample in
/-- Nothing is to be replaced, but the listing that would show it fails. -/
theorem outcome_of_course_unlisted :
    ∃ history, Course Sample.plan 10 ⟨0, false, .calling .survey⟩ history
        ⟨11, true, .ended (.failed (.snapshot ["no answer", "timed out"]))⟩ ∧
      Outcome Sample.plan ⟨0, false, .calling .survey⟩ history
        ⟨11, true, .ended (.failed (.snapshot ["no answer", "timed out"]))⟩ := by
  have h : Course Sample.plan 10 ⟨0, false, .calling .survey⟩ _
      ⟨0, false, .waiting (.replace 1) (ticker 10)⟩ :=
    Course.refl.reply (Nat.le_refl 0) .survey (.ok [new "a"]) rfl rfl
  have h : Course _ _ _ _ ⟨10, false, .calling (.poll (.replace 1) (ticker 20))⟩ :=
    h.wake (Nat.zero_le 10) _ _ rfl rfl
  have h : Course _ _ _ _ ⟨10, false, .calling (.probe (.replace 1) (ticker 20) {} (new "a") [])⟩ :=
    h.reply (Nat.le_refl 10) (.poll _ _) (.ok [new "a"]) rfl rfl
  have h : Course _ _ _ _ ⟨10, false, .calling (.choose 1)⟩ :=
    h.reply (Nat.le_refl 10) (.probe _ _ _ _ _) .healthy rfl rfl
  have h : Course _ _ _ _ ⟨11, true, .calling (.choose 1)⟩ :=
    h.snoc (.stop (Nat.le_succ 10))
  have h : Course _ _ _ _ ⟨11, true, .ended (.failed (.snapshot ["no answer", "timed out"]))⟩ :=
    h.reply (Nat.le_refl 11) (.choose _) (.error ["no answer", "timed out"]) rfl rfl
  exact ⟨_, h, outcome_of_course (by decide) rfl h⟩

end Rollout.Update
