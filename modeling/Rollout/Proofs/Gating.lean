import Rollout.Proofs.CallOrder

/-!
# Each destroy waits for healthy instances

Before each of its destroys a run makes a series of polls, of which all but the last find too few
healthy instances, and the last one finds enough: as many as were to stay at the beginning and one
more for each earlier destroy, but never more than the group is to have.
-/

namespace Rollout.Update

def destroys (calls : List Reply) : Nat := calls.countP Reply.isDestroy

@[simp] theorem destroys_append (xs ys : List Reply) :
    destroys (xs ++ ys) = destroys xs + destroys ys :=
  List.countP_append

@[simp] theorem destroys_list (answer : Except (List String) (List Instance)) :
    destroys [⟨.list, answer⟩] = 0 := rfl

@[simp] theorem destroys_destroy (victim : Instance) (reason : Reason) :
    destroys [⟨.destroy victim reason, ()⟩] = 1 := rfl

@[simp] theorem destroys_asked (asked : List (Instance × Health)) :
    destroys (asked.map fun a => ⟨.health a.1, a.2⟩) = 0 := by
  unfold destroys
  rw [List.countP_eq_zero]
  intro r hr
  obtain ⟨a, -, rfl⟩ := List.mem_map.1 hr
  simp [Reply.isDestroy, Call.kind]

@[simp] theorem destroys_replies (poll : Poll) : destroys poll.replies = 0 := by
  have h := destroys_append [⟨.list, .ok poll.snapshot⟩]
    (poll.asked.map fun a => ⟨.health a.1, a.2⟩)
  rw [destroys_list, destroys_asked] at h
  exact h

@[simp] theorem destroys_flatMap_replies (polls : List Poll) :
    destroys (polls.flatMap Poll.replies) = 0 := by
  induction polls with
  | nil => rfl
  | cons poll polls ih => simp [ih]

/-- The calls of a run whose first listing showed `first`, up to its `k`-th destroy, or up to this
listing if `k` is zero. -/
inductive UpToDestroy (first : List Instance) : Nat → List Reply → Prop where
  | listed : UpToDestroy first 0 [⟨.list, .ok first⟩]
  | destroyed {calls : List Reply} (begins : [⟨.list, .ok first⟩] <+: calls) (victim : Instance)
      (reason : Reason) :
      UpToDestroy first (destroys calls + 1) (calls ++ [⟨.destroy victim reason, ()⟩])

theorem UpToDestroy.destroys_eq {first : List Instance} {k : Nat} {calls : List Reply}
    (h : UpToDestroy first k calls) : destroys calls = k := by
  cases h with
  | listed => rfl
  | destroyed => simp

theorem UpToDestroy.begins {first : List Instance} {k : Nat} {calls : List Reply}
    (h : UpToDestroy first k calls) : [⟨.list, .ok first⟩] <+: calls := by
  cases h with
  | listed => exact List.prefix_rfl
  | destroyed begins => exact begins.trans (List.prefix_append _ _)

/-- The calls of a run that waits: those up to its latest destroy, and then polls that found too
few healthy instances. -/
theorem Waiting.exists_polls {plan : Plan} {aim : Aim} {calls : List Reply}
    (h : Waiting plan aim calls) {expected : Nat} (haim : aim = .replace expected) :
    ∃ (first : List Instance) (k : Nat) (earlier : List Reply) (polls : List Poll),
      UpToDestroy first k earlier ∧ expected = (plan.target.wanted first).length + k ∧
      calls = earlier ++ polls.flatMap Poll.replies ∧
      ∀ poll ∈ polls, poll.Clean plan.target ∧ poll.healthy < min expected plan.target.size := by
  induction h generalizing expected with
  | start threshold => simp at haim
  | survey snapshot =>
      obtain rfl : (plan.target.wanted snapshot).length = expected := by simpa using haim
      exact ⟨snapshot, 0, _, [], .listed, rfl, by simp, by simp⟩
  | @poll aim calls poll _ clean short ih =>
      subst haim
      obtain ⟨first, k, earlier, polls, hup, hexpected, rfl, hpolls⟩ := ih rfl
      refine ⟨first, k, earlier, polls ++ [poll], hup, hexpected, by simp, ?_⟩
      intro other hmem
      rcases List.mem_append.1 hmem with hold | hnew
      · exact hpolls other hold
      · obtain rfl := List.mem_singleton.1 hnew
        exact ⟨clean, short⟩
  | @destroy before calls poll choice others victim _ _ _ _ ih =>
      obtain rfl : before + 1 = expected := by simpa using haim
      obtain ⟨first, k, earlier, polls, hup, hexpected, rfl, -⟩ := ih rfl
      have hbegins : [⟨.list, .ok first⟩] <+: earlier ++ polls.flatMap Poll.replies ++
          poll.replies ++ [⟨.list, .ok choice⟩] := by
        simp only [List.append_assoc]
        exact hup.begins.trans (List.prefix_append _ _)
      have hdestroyed := UpToDestroy.destroyed hbegins victim .rollingUpdate
      simp only [destroys_append, destroys_flatMap_replies, destroys_replies, destroys_list,
        hup.destroys_eq, Nat.add_zero] at hdestroyed
      exact ⟨first, k + 1, _, [], by simpa using hdestroyed, by omega, by simp, by simp⟩

/-- The calls of a run that may destroy an instance next. Since its `k`-th destroy, or since its
first listing, it has made polls, and then listed the group once. In the last poll enough
instances were healthy, and in those before it too few; unhealthy ones there were none. -/
def Gated (plan : Plan) (calls : List Reply) : Prop :=
  ∃ (first : List Instance) (k required : Nat) (earlier : List Reply) (polls : List Poll)
    (last : Poll) (choice : List Instance),
    k = destroys calls ∧ UpToDestroy first k earlier ∧
    required = min ((plan.target.wanted first).length + k) plan.target.size ∧
    calls = earlier ++ polls.flatMap Poll.replies ++ last.replies ++ [⟨.list, .ok choice⟩] ∧
    (∀ poll ∈ polls, poll.Clean plan.target ∧ poll.healthy < required) ∧
    last.Clean plan.target ∧ required ≤ last.healthy

/-- Every run, over every backend and whenever it is told to stop, begins a destroy only when
the gate is open. -/
theorem destroy_gated {plan : Plan} {period : Nat} {start p : Point}
    {history : List (Nat × Event)} {expected : Nat} {victim : Instance}
    (hstart : start.status = .calling .survey) (hcourse : Course plan period start history p)
    (hissued : p.status = .calling (.destroy expected victim)) : Gated plan (replies history) := by
  have hstands := hcourse.stands (by rw [hstart]; rfl)
  rw [hissued] at hstands
  obtain ⟨_, choice, others, ⟨before, clean, enough⟩, -, hcalls⟩ := hstands
  obtain ⟨first, k, earlier, polls, hup, rfl, rfl, hpolls⟩ := before.exists_polls rfl
  have hk : k = destroys (replies history) := by
    rw [hcalls]
    simp [hup.destroys_eq]
  exact ⟨first, k, _, earlier, polls, _, choice, hk, hup, rfl, hcalls, hpolls, clean, enough⟩

namespace Sample

def plan : Plan :=
  { description := "r1 to r2"
    source := { revision := "r1", size := 2 }
    target := { revision := "r2", size := 2 } }

def old (id : String) : Instance := (Instance.ofId id).withRevision "r1"

def new (id : String) : Instance := (Instance.ofId id).withRevision "r2"

def ticker (due : Nat) : Ticker := ⟨10, due, by decide⟩

end Sample

open Sample in
/-- The second destroy of a run, after a poll in which the replacement was not known to be
healthy, and with a stop that came too late. -/
theorem destroy_gated_second :
    ∃ history, Course plan 10 ⟨0, false, .calling .survey⟩ history
        ⟨31, true, .calling (.destroy 1 (old "b"))⟩ ∧
      destroys (replies history) = 1 ∧ Gated plan (replies history) := by
  have h : Course plan 10 ⟨0, false, .calling .survey⟩ _ _ :=
    Course.refl.reply (Nat.le_refl 0) .survey (.ok [old "a", old "b"]) rfl rfl
  have h : Course _ _ _ _ ⟨10, false, .calling (.poll (.replace 0) (ticker 20))⟩ :=
    h.wake (Nat.zero_le 10) (.replace 0) (ticker 10) rfl rfl
  have h : Course _ _ _ _ ⟨10, false, .calling (.choose 0)⟩ :=
    h.reply (Nat.le_refl 10) (.poll _ _) (.ok [old "a", old "b"]) rfl rfl
  have h : Course _ _ _ _ ⟨10, false, .calling (.destroy 0 (old "a"))⟩ :=
    h.reply (Nat.le_refl 10) (.choose 0) (.ok [old "a", old "b"]) rfl
      (status_proceed (Settings.destroyOrder_eq_self (by decide)))
  have h : Course _ _ _ _ ⟨10, false, .waiting (.replace 1) (ticker 20)⟩ :=
    h.reply (Nat.le_refl 10) (.destroy _ _) () rfl rfl
  have h : Course _ _ _ _ ⟨20, false, .calling (.poll (.replace 1) (ticker 30))⟩ :=
    h.wake (by decide) _ _ rfl rfl
  have h : Course _ _ _ _ ⟨20, false, .calling (.probe (.replace 1) (ticker 30) {} (new "c") [])⟩ :=
    h.reply (Nat.le_refl 20) (.poll _ _) (.ok [old "b", new "c"]) rfl rfl
  have h : Course _ _ _ _ ⟨20, false, .waiting (.replace 1) (ticker 30)⟩ :=
    h.reply (Nat.le_refl 20) (.probe _ _ _ _ _) .unknown rfl rfl
  have h : Course _ _ _ _ ⟨30, false, .calling (.poll (.replace 1) (ticker 40))⟩ :=
    h.wake (by decide) _ _ rfl rfl
  have h : Course _ _ _ _ ⟨30, false, .calling (.probe (.replace 1) (ticker 40) {} (new "c") [])⟩ :=
    h.reply (Nat.le_refl 30) (.poll _ _) (.ok [old "b", new "c"]) rfl rfl
  have h : Course _ _ _ _ ⟨30, true, .calling (.probe (.replace 1) (ticker 40) {} (new "c") [])⟩ :=
    h.snoc (.stop (Nat.le_refl 30))
  have h : Course _ _ _ _ ⟨30, true, .calling (.choose 1)⟩ :=
    h.reply (Nat.le_refl 30) (.probe _ _ _ _ _) .healthy rfl rfl
  have h : Course _ _ _ _ ⟨31, true, .calling (.destroy 1 (old "b"))⟩ :=
    h.reply (by decide) (.choose 1) (.ok [old "b", new "c"]) rfl
      (status_proceed (Settings.destroyOrder_eq_self (by decide)))
  exact ⟨_, h, rfl, destroy_gated rfl h rfl⟩

end Rollout.Update
