import Rollout.Proofs.Expectation
import Rollout.Proofs.Gating
import Rollout.Proofs.Site

/-!
# A run never waits for more than there is

Others may destroy what they like while a run is in progress, also the instance that the run is
about to destroy. The number that the run expects is raised by one all the same, but never above
the number of members that are to stay, as every destroy that finds an instance to be replaced
puts one to stay in its place. So a wait ends with the first poll in which all of them are healthy.
-/

namespace Rollout.Update

/-- The group has as many members to stay as a run expects, and one more as soon as the instance
that the run is about to destroy is gone. -/
structure Supplied (plan : Plan) (g : Group) (status : Status) : Prop where
  expected_le : ∀ e, status.expected? = some e → e ≤ (plan.target.wanted g.members).length
  victim : ∀ e victim, status = .calling (.destroy e victim) →
    victim ∈ plan.target.unwanted g.members ∨ e < (plan.target.wanted g.members).length

variable {plan : Plan} {may : Group.Change → Prop} {g : Group} {s t : Site}

namespace Supplied

theorem of_begins {period now : Nat} {status : Status} (h : Begins period now status) :
    Supplied plan g status where
  expected_le := by
    intro e he
    rcases h with rfl | ⟨threshold, rfl⟩
    · simp [Status.expected?] at he
    · simpa [Aim.expected?] using expected?_of_await he
  victim := by
    intro e victim hv
    rcases h with rfl | ⟨threshold, rfl⟩
    · simp at hv
    · unfold await at hv
      split at hv <;> simp at hv

theorem destroy (hl : g.Lineage plan.target.revision)
    (hr : g.replacement = some plan.target.revision) {status : Status}
    (h : Supplied plan g status) (id : String) (reason : Reason) :
    Supplied plan (g.destroy id reason).1 status where
  expected_le := by
    intro e he
    exact (h.expected_le e he).trans (Group.length_wanted_le_destroy hr id reason)
  victim := by
    intro e victim hv
    have hle := Group.length_wanted_le_destroy hr id reason
    rcases h.victim e victim hv with hmem | hlt
    · rcases Group.mem_destroy_or_length_lt hl hr hmem id reason with hmem | hlt
      · exact .inl hmem
      · have he := h.expected_le e (by rw [hv]; rfl)
        exact .inr (by omega)
    · exact .inr (by omega)

theorem apply (hl : g.Lineage plan.target.revision)
    (hr : g.replacement = some plan.target.revision) {status : Status}
    (h : Supplied plan g status) (c : Group.Change) : Supplied plan (g.apply c).1 status := by
  cases c with
  | destroy id reason => exact h.destroy hl hr id reason
  | setHealth | setHealthOf | setFailing => exact ⟨h.expected_le, h.victim⟩

/-- A destroy of a run raises its expectation, and the supply with it. -/
theorem succ_le_destroy (hl : g.Lineage plan.target.revision)
    (hr : g.replacement = some plan.target.revision) {e : Nat} {victim : Instance}
    (h : Supplied plan g (.calling (.destroy e victim))) (reason : Reason) :
    e + 1 ≤ (plan.target.wanted (g.destroy victim.id reason).1.members).length := by
  have he := h.expected_le e rfl
  rcases h.victim e victim rfl with hmem | hlt
  · obtain ⟨fresh, hfresh⟩ := Group.wanted_destroy hl hr hmem reason
    rw [hfresh, List.length_append, List.length_singleton]
    omega
  · exact hlt.trans_le (Group.length_wanted_le_destroy hr victim.id reason)

end Supplied

/-- What holds of a group with a run of which every replacement is as the run wants it. -/
structure Sustained (plan : Plan) (s : Site) : Prop where
  lineage : s.group.Lineage plan.target.revision
  replacement : s.group.replacement = some plan.target.revision
  supplied : Supplied plan s.group s.point.status

theorem Sustained.reply (h : Sustained plan s) {stage : Stage} {answer : stage.call.Answer}
    {now : Nat} (hs : s.point.status = .calling stage)
    (ha : answer = (s.group.answer stage.call).1)
    (hstands : Stands plan (replies s.history ++ [⟨stage.call, answer⟩])
      (plan.resume s.period now stage answer).status) :
    Supplied plan (s.group.answer stage.call).2 (plan.resume s.period now stage answer).status where
  expected_le := by
    intro e he
    have hsupplied := h.supplied
    rw [hs] at hsupplied
    rcases expected?_of_resume he with ⟨snapshot, hreply, rfl⟩ | ⟨hkind, he⟩ | ⟨_, victim, rfl, rfl⟩
    · obtain ⟨rfl, hmembers⟩ := members_of_reply_eq ha hreply
      rw [hmembers]
    · rw [members_answer s.group hkind]
      exact hsupplied.expected_le e he
    · exact hsupplied.succ_le_destroy h.lineage h.replacement .rollingUpdate
  victim := by
    intro e victim hv
    rw [hv] at hstands
    -- The victim comes from the listing just answered, and nobody has acted since.
    obtain ⟨before, choice, others, -, hchosen, hcalls⟩ := hstands
    have hreply := List.singleton_inj.1 (List.append_inj' hcalls rfl).2
    obtain ⟨rfl, hmembers⟩ := members_of_reply_eq ha hreply
    refine .inl ?_
    rw [hmembers, ← (Settings.destroyOrder_perm plan.source _).mem_iff, hchosen]
    exact List.mem_cons_self

theorem Sustained.step (h : Sustained plan s) (hstep : Site.Step plan may s t)
    (hstands : Stands plan (replies t.history) t.point.status) : Sustained plan t := by
  cases hstep with
  | @change c _ =>
      exact ⟨h.lineage.apply c, (Group.replacement_apply _ c).trans h.replacement,
        h.supplied.apply h.lineage h.replacement c⟩
  | @advance now event q step comes =>
      cases step with
      | stop => exact ⟨h.lineage, h.replacement, h.supplied⟩
      | @wake _ aim ticker move _ waits goes =>
          have hsupplied := h.supplied
          rw [waits] at hsupplied
          refine ⟨h.lineage, h.replacement, ?_, ?_⟩
          · intro e he
            exact hsupplied.expected_le e (expected?_of_wake goes he)
          · intro e victim hv
            rcases wake_cases goes with ⟨-, hmove⟩ | ⟨-, -, hmove⟩
            · simp [hmove] at hv
            · simp [hmove] at hv
      | reply _ calls answer =>
          rw [replies_append] at hstands
          exact ⟨lineage_answer h.lineage _, (replacement_answer _ _).trans h.replacement,
            h.reply calls comes hstands⟩

theorem Site.Reach.sustained (h : Site.Reach plan may g s)
    (hids : (g.members.map Instance.id).Nodup)
    (hr : g.replacement = some plan.target.revision) : Sustained plan s := by
  induction h with
  | first begins =>
      have hlineage : g.Lineage plan.target.revision :=
        .of_nodup hids fun r h => Option.some.inj (h.symm.trans hr)
      exact ⟨hlineage, hr, .of_begins begins⟩
  | step reach step ih => exact ih.step step (reach.step step).stands
  -- A new run expects nothing before its own first listing.
  | again _ begins ih => exact ⟨ih.lineage, ih.replacement, .of_begins begins⟩

/-- In a poll in which all are healthy, the run comes to choose the next instance. -/
theorem choose_of_all_healthy {period expected : Nat} {ticker : Ticker} {p q : Point}
    {asked : List (Instance × Health)} {tally : Tally} {later : List (Nat × Event)}
    (hhealthy : ∀ a ∈ asked, a.2 = .healthy) (hcourse : Course plan period p later q)
    (hp : p.status = (plan.pollOn (.replace expected) ticker tally (asked.map Prod.fst)).status)
    (hreplies : replies later = asked.map (fun a => ⟨.health a.1, a.2⟩))
    (henough : (Aim.replace expected).threshold plan ≤ tally.healthy + asked.length) :
    q.status = .calling (.choose expected) := by
  rw [← List.append_nil (asked.map Prod.fst)] at hp
  rw [← List.append_nil (asked.map _)] at hreplies
  obtain ⟨p', tally', later', hcourse', hp', hnone, hcount⟩ :=
    hcourse.asked_on (fun a ha => by simp [hhealthy a ha]) hp hreplies
  have hall : asked.countP (fun a => a.2 = .healthy) = asked.length :=
    List.countP_eq_length.2 (by simpa using hhealthy)
  have hmet : (Aim.replace expected).threshold plan ≤ tally'.healthy := by
    rw [hcount, hall]
    exact henough
  have hchoose : p'.status = .calling (.choose expected) := by
    rw [hp']
    simp [Plan.pollOn, Plan.settle, hmet]
  rcases hcourse'.replies_of_calling hchoose with ⟨-, hq⟩ | ⟨_, _, _, _, hcons, -⟩
  · exact hq
  · simp [hcons] at hnone

/-- Whatever others do to the group meanwhile, a poll of a run never waits for more instances
than are to stay when it lists the group; and if all of these are healthy, it ends the wait. -/
theorem threshold_le_wanted {ticker : Ticker} {expected : Nat}
    (hids : (g.members.map Instance.id).Nodup) (hr : g.replacement = some plan.target.revision)
    (hreach : Site.Reach plan (fun _ => True) g s)
    (hpoll : s.point.status = .calling (.poll (.replace expected) ticker)) :
    (Aim.replace expected).threshold plan ≤ (plan.target.wanted s.group.members).length ∧
      ∀ (t : Site) (later : List (Nat × Event)) (poll : Poll),
        Site.Steps plan (fun _ => True) s t → t.history = s.history ++ later →
        replies later = poll.replies → poll.asked.map Prod.fst = plan.target.wanted poll.snapshot →
        (∀ a ∈ poll.asked, a.2 = .healthy) → t.point.status = .calling (.choose expected) := by
  have hle : ∀ s', Site.Reach plan (fun _ => True) g s' →
      s'.point.status = .calling (.poll (.replace expected) ticker) →
      (Aim.replace expected).threshold plan ≤ (plan.target.wanted s'.group.members).length := by
    intro s' hreach' hs'
    have hexpected := (hreach'.sustained hids hr).supplied.expected_le expected (by rw [hs']; rfl)
    exact (Nat.min_le_left _ _).trans hexpected
  refine ⟨hle s hreach hpoll, ?_⟩
  intro t later poll hsteps hhistory hreplies hasked hhealthy
  obtain ⟨later', hlater, hcases, -⟩ := hsteps.reply_of_calling hpoll
  obtain rfl : later' = later := List.append_cancel_left (hlater.symm.trans hhistory)
  rcases hcases with ⟨hnil, -⟩ | ⟨s', now, next, after, hs', hcalling, hcons, hnext, hcourse⟩
  · simp [hnil, Poll.replies] at hreplies
  · rw [hcons, Poll.replies, List.cons.injEq] at hreplies
    obtain ⟨hreply, hafter⟩ := hreplies
    have hsnapshot : (s'.group.answer .list).1 = .ok poll.snapshot := by simpa using hreply
    have hmembers : poll.snapshot = s'.group.members := answer_list_eq_ok hsnapshot
    have hthreshold := hle s' (hreach.steps hs') hcalling
    change next.status =
      (plan.resume s.period now (.poll _ ticker) (s'.group.answer .list).1).status at hnext
    rw [hsnapshot] at hnext
    have hpolling : next.status =
        (plan.pollOn (.replace expected) ticker {} (poll.asked.map Prod.fst)).status := by
      rw [hasked]
      exact hnext
    have henough : (Aim.replace expected).threshold plan ≤ ({} : Tally).healthy +
        poll.asked.length := by
      rw [← List.length_map Prod.fst, hasked, hmembers]
      exact hthreshold.trans (Nat.le_add_left _ _)
    exact choose_of_all_healthy hhealthy hcourse hpolling hafter henough

namespace Sample

/-- A group of two in which what is destroyed is replaced by the second revision. -/
def pair : Group := { members := [old "a", old "b"], replacement := some "r2" }

theorem reach_first_destroy (may : Group.Change → Prop) :
    ∃ history, Site.Reach Sample.plan may pair ⟨{ pair with listCalls := 3 }, 10,
      ⟨10, false, .calling (.destroy 0 (old "a"))⟩, history⟩ := by
  have h : Site.Reach Sample.plan may pair
      ⟨pair, 10, ⟨0, false, .calling .survey⟩, []⟩ := .first (.inl rfl)
  have h : Site.Reach _ _ _ ⟨{ pair with listCalls := 1 }, 10,
      ⟨0, false, .waiting (.replace 0) (ticker 10)⟩, _⟩ := h.step (.reply (Nat.le_refl 0) rfl rfl)
  have h : Site.Reach _ _ _ ⟨_, 10, ⟨10, false, .calling (.poll (.replace 0) (ticker 20))⟩, _⟩ :=
    h.step (.wake (Nat.zero_le 10) rfl)
  have h : Site.Reach _ _ _ ⟨{ pair with listCalls := 2 }, 10,
      ⟨10, false, .calling (.choose 0)⟩, _⟩ := h.step (.reply (Nat.le_refl 10) rfl rfl)
  have h : Site.Reach _ _ _ ⟨{ pair with listCalls := 3 }, 10,
      ⟨10, false, .calling (.destroy 0 (old "a"))⟩, _⟩ :=
    h.step (.reply (Nat.le_refl 10) rfl
      (status_proceed (Settings.destroyOrder_eq_self (by decide))))
  exact ⟨_, h⟩

/-- The group after others have destroyed the first of them. -/
def robbed : Group := (pair.destroy "a" .manual).1

def fresh : Instance := Group.replacementOf (old "a") "r2" 0

end Sample

open Sample in
/-- Somebody else destroys the instance that a run has chosen, just before the run does. -/
theorem threshold_le_wanted_forestalled :
    ∃ s t : Site, Site.Reach Sample.plan (fun _ => True) pair s ∧
      (Aim.replace 1).threshold Sample.plan ≤ (Sample.plan.target.wanted s.group.members).length ∧
      Site.Steps Sample.plan (fun _ => True) s t ∧ t.point.status = .calling (.choose 1) := by
  obtain ⟨_, h⟩ := reach_first_destroy fun _ => True
  have h : Site.Reach _ _ _ ⟨{ robbed with listCalls := 3 }, 10,
      ⟨10, false, .calling (.destroy 0 (old "a"))⟩, _⟩ :=
    h.step (@Site.Step.change _ _ _ (.destroy "a" .manual) trivial)
  have h : Site.Reach _ _ _ ⟨{ robbed with listCalls := 3 }, 10,
      ⟨10, false, .waiting (.replace 1) (ticker 20)⟩, _⟩ :=
    h.step (.reply (Nat.le_refl 10) rfl rfl)
  have h : Site.Reach _ _ _ ⟨_, 10, ⟨20, false, .calling (.poll (.replace 1) (ticker 30))⟩, _⟩ :=
    h.step (.wake (by decide) rfl)
  obtain ⟨hle, hends⟩ := threshold_le_wanted (by decide) rfl h rfl
  have hs (history : List (Nat × Event)) : Site.Steps Sample.plan (fun _ => True)
      ⟨{ robbed with listCalls := 3 }, 10,
        ⟨20, false, .calling (.poll (.replace 1) (ticker 30))⟩, history⟩
      ⟨{ robbed with listCalls := 4 }, 10,
        ⟨20, false, .calling (.probe (.replace 1) (ticker 30) {} fresh [])⟩, _⟩ :=
    .single (.reply (Nat.le_refl 20) rfl rfl)
  have hpoll (history : List (Nat × Event)) :=
    (hs history).tail (.reply (Nat.le_refl 20) rfl rfl)
  let poll : Poll := ⟨[old "b", fresh], [(fresh, .healthy)]⟩
  exact ⟨_, _, h, hle, hpoll _,
    hends _ _ poll (hpoll _) (List.append_assoc _ _ _) rfl rfl (by simp [poll])⟩

end Rollout.Update
