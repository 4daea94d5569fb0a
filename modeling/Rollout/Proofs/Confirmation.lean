import Rollout.Proofs.Demand

/-!
# One unconfirmed replacement at a time

Where nobody else destroys instances, the number that a run expects bounds the number of members
that are to stay from above. As the group keeps its size, this holds of the threshold too, so that
a poll that ends a wait has heard of each of them that it is healthy. The members stay as this poll
has listed them until the run destroys the next one.
-/

namespace Rollout.Update

/-- Every listing since the latest destroy has shown these members. -/
def Shown (members : List Instance) (calls : List Reply) : Prop :=
  ∀ before snapshot after, calls = before ++ ⟨.list, .ok snapshot⟩ :: after →
    destroys after = 0 → snapshot = members

variable {plan : Plan} {may : Group.Change → Prop} {g : Group} {s t : Site}

theorem shown_nil (members : List Instance) : Shown members [] := by
  intro before snapshot after hcalls
  simp at hcalls

theorem Shown.reply {calls : List Reply} (h : Shown g.members calls) (call : Call) :
    Shown (g.answer call).2.members (calls ++ [⟨call, (g.answer call).1⟩]) := by
  intro before snapshot after hcalls hnone
  rcases List.eq_nil_or_concat after with rfl | ⟨after, last, rfl⟩
  · have hreply := List.singleton_inj.1 (List.append_inj' hcalls rfl).2
    obtain ⟨hsnapshot, hmembers⟩ := members_of_reply_eq rfl hreply
    exact hsnapshot.trans hmembers.symm
  · have hsnoc : calls ++ [⟨call, (g.answer call).1⟩] =
        (before ++ ⟨.list, .ok snapshot⟩ :: after) ++ [last] := by simpa using hcalls
    obtain ⟨hbefore, hlast⟩ := List.append_inj' hsnoc rfl
    obtain rfl := List.singleton_inj.1 hlast
    rw [List.concat_eq_append, destroys_append] at hnone
    have hkind : call.kind ≠ .destroy := by
      intro hkind
      simp [destroys, Reply.isDestroy, hkind] at hnone
    rw [members_answer g hkind]
    exact h before snapshot after hbefore (by omega)

theorem Shown.step (h : Shown s.group.members (replies s.history))
    (hstep : Site.Step plan Group.Change.Spares s t) :
    Shown t.group.members (replies t.history) := by
  cases hstep with
  | change spares =>
      rw [spares.members_apply s.group]
      exact h
  | advance step comes =>
      rw [replies_append]
      cases step with
      | stop | wake => simpa using h
      | @reply _ stage _ _ answer =>
          obtain rfl := comes
          exact h.reply stage.call

/-- Where nobody else destroys instances, the latest listing of a run still shows the members. -/
theorem Site.Reach.shown (h : Site.Reach plan Group.Change.Spares g s) :
    Shown s.group.members (replies s.history) := by
  induction h with
  | first => exact shown_nil _
  | step _ step ih => exact ih.step step
  | again => exact shown_nil _

/-- What holds of a group with a run of which nobody else destroys instances. -/
structure Undisturbed (plan : Plan) (s : Site) : Prop where
  length_le : s.group.members.length ≤ plan.target.size
  le_expected : ∀ e, s.point.status.expected? = some e →
    (plan.target.wanted s.group.members).length ≤ e
  shown : Shown s.group.members (replies s.history)

theorem Undisturbed.reply (h : Undisturbed plan s)
    (hr : s.group.replacement = some plan.target.revision) {stage : Stage}
    {answer : stage.call.Answer} {now e : Nat} (hs : s.point.status = .calling stage)
    (ha : answer = (s.group.answer stage.call).1)
    (he : (plan.resume s.period now stage answer).status.expected? = some e) :
    (plan.target.wanted (s.group.answer stage.call).2.members).length ≤ e := by
  have hle := h.le_expected
  rw [hs] at hle
  rcases expected?_of_resume he with ⟨snapshot, hreply, rfl⟩ | ⟨hkind, he⟩ | ⟨_, victim, rfl, rfl⟩
  · obtain ⟨rfl, hmembers⟩ := members_of_reply_eq ha hreply
    rw [hmembers]
  · rw [members_answer s.group hkind]
    exact hle e he
  · have hcount := Group.length_wanted_destroy_le hr victim.id .rollingUpdate
    exact hcount.trans (Nat.succ_le_succ (hle _ rfl))

theorem length_members_answer {revision : Revision} (hr : g.replacement = some revision)
    (call : Call) : (g.answer call).2.members.length = g.members.length := by
  cases call with
  | list => rfl
  | health i => rfl
  | destroy i reason => exact Group.length_members_destroy hr i.id reason

theorem Undisturbed.step (h : Undisturbed plan s)
    (hr : s.group.replacement = some plan.target.revision)
    (hstep : Site.Step plan Group.Change.Spares s t) : Undisturbed plan t := by
  have hshown := h.shown.step hstep
  cases hstep with
  | @change c spares =>
      have hmembers := spares.members_apply s.group
      refine ⟨?_, ?_, hshown⟩
      · rw [hmembers]
        exact h.length_le
      · rw [hmembers]
        exact h.le_expected
  | @advance now event q step comes =>
      cases step with
      | stop => exact ⟨h.length_le, h.le_expected, hshown⟩
      | @wake _ aim ticker move _ waits goes =>
          refine ⟨h.length_le, ?_, hshown⟩
          intro e he
          refine h.le_expected e ?_
          rw [waits]
          exact expected?_of_wake goes he
      | @reply _ stage _ calls answer =>
          obtain rfl := comes
          refine ⟨(length_members_answer hr _).trans_le h.length_le, ?_, hshown⟩
          intro e he
          exact h.reply hr calls rfl he

theorem undisturbed_of_begins {period now : Nat} {stopped : Bool} {status : Status}
    (h : Begins period now status) (hsize : g.members.length ≤ plan.target.size) :
    Undisturbed plan ⟨g, period, ⟨now, stopped, status⟩, []⟩ where
  length_le := hsize
  le_expected := by
    intro e he
    rcases h with rfl | ⟨threshold, rfl⟩
    · simp [Status.expected?] at he
    · simpa [Aim.expected?] using expected?_of_await he
  shown := shown_nil _

theorem Site.Reach.undisturbed (h : Site.Reach plan Group.Change.Spares g s)
    (hids : (g.members.map Instance.id).Nodup) (hr : g.replacement = some plan.target.revision)
    (hsize : g.members.length ≤ plan.target.size) : Undisturbed plan s := by
  induction h with
  | first begins => exact undisturbed_of_begins begins hsize
  | step reach step ih => exact ih.step (reach.sustained hids hr).replacement step
  | again _ begins ih => exact undisturbed_of_begins begins ih.length_le

/-- A poll that asks after no more instances than it needs to be healthy, and ends the wait, has
heard of each that it is healthy. -/
theorem Poll.Clean.asked_eq_map {poll : Poll} {target : Settings} (h : poll.Clean target)
    (henough : (target.wanted poll.snapshot).length ≤ poll.healthy) :
    poll.asked = (target.wanted poll.snapshot).map fun i => (i, .healthy) := by
  have hlength : poll.asked.length = (target.wanted poll.snapshot).length := by
    rw [← h.asked_eq, List.length_map]
  have hall : ∀ a ∈ poll.asked, a.2 = .healthy := by
    have hcount : poll.healthy = poll.asked.length :=
      le_antisymm List.countP_le_length (hlength.trans_le henough)
    simpa using List.countP_eq_length.1 hcount
  calc poll.asked
    _ = poll.asked.map id := (List.map_id _).symm
    _ = poll.asked.map ((fun i => (i, .healthy)) ∘ Prod.fst) :=
      List.map_congr_left fun a ha => Prod.ext rfl (hall a ha)
    _ = (target.wanted poll.snapshot).map fun i => (i, .healthy) := by
      rw [← h.asked_eq, List.map_map]

/-- Where nobody else destroys instances, a run destroys one only when the poll that ended its
last wait has heard of every member that is to stay that it is healthy. These are still the members
to stay at the destroy, which adds the one replacement to them. -/
theorem destroy_confirmed {expected : Nat} {victim : Instance}
    (hids : (g.members.map Instance.id).Nodup) (hr : g.replacement = some plan.target.revision)
    (hsize : g.members.length ≤ plan.target.size)
    (hreach : Site.Reach plan Group.Change.Spares g s)
    (hissued : s.point.status = .calling (.destroy expected victim)) :
    ∃ (before : List Reply) (poll : Poll) (choice : List Instance),
      Waiting plan (.replace expected) before ∧
      replies s.history = before ++ poll.replies ++ [⟨.list, .ok choice⟩] ∧
      poll.asked = (plan.target.wanted poll.snapshot).map (fun i => (i, .healthy)) ∧
      plan.target.wanted poll.snapshot = plan.target.wanted s.group.members ∧
      ∃ fresh, plan.target.wanted (s.group.destroy victim.id .rollingUpdate).1.members =
        plan.target.wanted s.group.members ++ [fresh] := by
  have hsustained := hreach.sustained hids hr
  have hundisturbed := hreach.undisturbed hids hr hsize
  have hshown := hundisturbed.shown
  have hstands := hreach.stands
  rw [hissued] at hstands
  obtain ⟨_, choice, others, @⟨before, poll, waiting, clean, enough⟩, hchosen, hcalls⟩ := hstands
  have hchoice : choice = s.group.members := hshown _ choice [] hcalls rfl
  have hsnapshot : poll.snapshot = s.group.members := by
    rw [hcalls] at hshown
    refine hshown before poll.snapshot (_ ++ [⟨.list, .ok choice⟩]) (List.append_assoc _ _ _) ?_
    rw [destroys_append, destroys_asked, destroys_list]
  -- Neither the number expected nor the size of the group can be below the number of members
  -- to stay, so the poll has found all of them healthy.
  have hle := hundisturbed.le_expected expected (by rw [hissued]; rfl)
  have hsize := (List.length_filter_le plan.target.wants _).trans hundisturbed.length_le
  have henough : (plan.target.wanted poll.snapshot).length ≤ poll.healthy := by
    rw [hsnapshot]
    exact (Nat.le_min.2 ⟨hle, hsize⟩).trans enough
  have hvictim : victim ∈ plan.target.unwanted s.group.members := by
    rw [← hchoice, ← (Settings.destroyOrder_perm plan.source _).mem_iff, hchosen]
    exact List.mem_cons_self
  exact ⟨before, poll, choice, waiting, hcalls, clean.asked_eq_map henough, by rw [hsnapshot],
    Group.wanted_destroy hsustained.lineage hsustained.replacement hvictim .rollingUpdate⟩

namespace Sample

/-- The group after the run has destroyed the first of them. -/
def halfway : Group := (pair.destroy "a" .rollingUpdate).1

end Sample

open Sample in
/-- A run is abandoned after its first destroy, and the next one destroys the other instance. -/
theorem destroy_confirmed_resumed :
    ∃ s, Site.Reach Sample.plan Group.Change.Spares pair s ∧
      s.point.status = .calling (.destroy 1 (old "b")) ∧
      ∃ (before : List Reply) (poll : Poll) (choice : List Instance),
        replies s.history = before ++ poll.replies ++ [⟨.list, .ok choice⟩] ∧
        poll.asked = [(fresh, .healthy)] := by
  obtain ⟨_, h⟩ := reach_first_destroy Group.Change.Spares
  have h : Site.Reach _ _ _ ⟨{ halfway with listCalls := 3 }, 10,
      ⟨10, false, .waiting (.replace 1) (ticker 20)⟩, _⟩ :=
    h.step (.reply (Nat.le_refl 10) rfl rfl)
  have h : Site.Reach _ _ _ ⟨{ halfway with listCalls := 3 }, 10,
      ⟨10, false, .calling .survey⟩, _⟩ := h.again (.inl rfl)
  have h : Site.Reach _ _ _ ⟨{ halfway with listCalls := 4 }, 10,
      ⟨10, false, .waiting (.replace 1) (ticker 20)⟩, _⟩ :=
    h.step (.reply (Nat.le_refl 10) rfl rfl)
  have h : Site.Reach _ _ _ ⟨_, 10, ⟨20, false, .calling (.poll (.replace 1) (ticker 30))⟩, _⟩ :=
    h.step (.wake (by decide) rfl)
  have h : Site.Reach _ _ _ ⟨{ halfway with listCalls := 5 }, 10,
      ⟨20, false, .calling (.probe (.replace 1) (ticker 30) {} fresh [])⟩, _⟩ :=
    h.step (.reply (Nat.le_refl 20) rfl rfl)
  have h : Site.Reach _ _ _ ⟨_, 10, ⟨20, false, .calling (.choose 1)⟩, _⟩ :=
    h.step (.reply (Nat.le_refl 20) rfl rfl)
  have h : Site.Reach _ _ _ ⟨{ halfway with listCalls := 6 }, 10,
      ⟨20, false, .calling (.destroy 1 (old "b"))⟩, _⟩ :=
    h.step (.reply (Nat.le_refl 20) rfl
      (status_proceed (Settings.destroyOrder_eq_self (by decide))))
  obtain ⟨before, poll, choice, -, hcalls, hasked, hwanted, -⟩ :=
    destroy_confirmed (by decide) rfl (by decide) h rfl
  refine ⟨_, h, rfl, before, poll, choice, hcalls, ?_⟩
  rw [hasked, hwanted]
  rfl

end Rollout.Update
