import Rollout.Proofs.Alone
import Rollout.Proofs.Victim

/-!
# Convergence

A run that is left alone with a group in which all that is to stay is healthy, and all that comes
as well, replaces one instance in each round: the first poll of a wait finds as many healthy
instances as the run expects, since the run counts on its own replacements only. What is left to
replace gets shorter with each round (`Ready.inevitably_destroy`), and this is what the induction
is on.
-/

namespace Rollout.Update

/-- Every member that is to stay is healthy, so is every replacement, and the group can be listed. -/
structure Sound (plan : Plan) (g : Group) : Prop where
  lineage : g.Lineage plan.target.revision
  replacement : g.replacement = some plan.target.revision
  fresh : g.replacementHealth = .healthy
  listed : g.failing = false
  healthy : ∀ i ∈ plan.target.wanted g.members, g.health i.id = .healthy

namespace Sound

variable {plan : Plan} {g : Group} {victim : Instance}

theorem list (h : Sound plan g) : Sound plan g.list.2 :=
  ⟨⟨h.lineage.replacement_eq, h.lineage.ids⟩, h.replacement, h.fresh, h.listed, h.healthy⟩

theorem answer_list (h : Sound plan g) : (g.answer .list).1 = .ok g.members := by
  simp [Group.answer, Group.list, h.listed]

theorem destroy (h : Sound plan g) (id : String) (reason : Reason) :
    Sound plan (g.destroy id reason).1 := by
  rcases Group.destroy_cases g id reason with
    ⟨-, heq⟩ | ⟨before, removed, after, hg, -, -, hrest, heq⟩
  · rw [heq]
    exact h
  refine ⟨h.lineage.destroy id reason, ?_, ?_, ?_, ?_⟩
  · rw [Group.replacement_destroy, h.replacement]
  · rw [heq, h.replacement]
    exact h.fresh
  · rw [heq, h.replacement]
    exact h.listed
  rw [heq, h.replacement]
  intro i hi
  obtain ⟨hmem, hwants⟩ := List.mem_filter.1 hi
  simp only [Group.replace, hrest] at hmem
  simp only [Group.health, Group.replace, Group.remove, Dictionary.get?_insert,
    Dictionary.get?_erase, h.fresh]
  split
  · rfl
  · rename_i hother
    split
    · rfl
    · rcases List.mem_append.1 hmem with hold | hnew
      · have hmember : i ∈ g.members := by
          rw [hg]
          exact (List.mem_append.1 hold).elim (List.mem_append_left _)
            fun hlate => List.mem_append_right _ (List.mem_cons_of_mem _ hlate)
        exact h.healthy i (List.mem_filter.2 ⟨hmember, hwants⟩)
      · exact absurd (congrArg Instance.id (List.mem_singleton.1 hnew)) hother

end Sound

variable {plan : Plan} {lag : Nat → Prop} {s : Site} {expected : Nat} {ticker : Ticker}

/-- A poll of healthy instances asks after one after the other, and then ends the wait. -/
theorem inevitably_choose (hlag : ∃ late, lag late) (rest : List Instance) :
    ∀ {s : Site} {tally : Tally}, s.point.stopped = false →
      s.point.status = (plan.pollOn (.replace expected) ticker tally rest).status →
      (∀ i ∈ rest, s.group.health i.id = .healthy) →
      (Aim.replace expected).threshold plan ≤ tally.healthy + rest.length →
      Inevitably (Site.Alone plan lag) (fun t => Onward lag 0 0 0 s t ∧ t.group = s.group ∧
        t.point.status = .calling (.choose expected)) s := by
  induction rest with
  | nil =>
      intro s tally hgoing hs _ hmet
      have hmet : (Aim.replace expected).threshold plan ≤ tally.healthy := hmet
      refine .now ⟨.refl lag hgoing, rfl, ?_⟩
      rw [hs]
      simp [Plan.pollOn, Plan.settle, hmet]
  | cons i rest ih =>
      intro s tally hgoing hs hhealthy hmet
      apply inevitably_of_calling hlag hgoing hs
      intro t hasked hgroup ht
      have hanswer : (s.group.answer (.health i)).1 = .healthy := hhealthy i List.mem_cons_self
      have hrest : ∀ j ∈ rest, t.group.health j.id = .healthy := by
        rw [hgroup]
        exact fun j hj => hhealthy j (List.mem_cons_of_mem _ hj)
      have hcount : (Aim.replace expected).threshold plan ≤ tally.healthy + 1 + rest.length := by
        rw [List.length_cons] at hmet
        omega
      rw [hanswer] at ht
      refine (ih hasked.going ht hrest hcount).mono ?_
      rintro u ⟨hon, hu, hchoose⟩
      exact ⟨hasked.trans hon, hu.trans hgroup, hchoose⟩

theorem inevitably_polled (hlag : ∃ late, lag late) (hsound : Sound plan s.group)
    (hgoing : s.point.stopped = false)
    (hs : s.point.status = .waiting (.replace expected) ticker)
    (hmet : (Aim.replace expected).threshold plan ≤ (plan.target.wanted s.group.members).length) :
    Inevitably (Site.Alone plan lag) (fun t => Onward lag 0 1 (ticker.due - s.point.now) s t ∧
      t.group = s.group.list.2 ∧ t.point.status = .calling (.choose expected)) s := by
  apply inevitably_of_waiting hlag hgoing hs
  intro t next htick hgroup ht
  apply inevitably_of_calling hlag htick.going ht
  intro u hlist hlisted hu
  rw [hgroup] at hlist hlisted hu
  rw [hsound.answer_list] at hu
  have hhealthy : ∀ i ∈ plan.target.wanted s.group.members, u.group.health i.id = .healthy := by
    rw [hlisted]
    exact hsound.healthy
  refine (inevitably_choose hlag _ hlist.going hu hhealthy ?_).mono ?_
  · exact hmet.trans (Nat.le_add_left _ _)
  · rintro v ⟨hasked, hv, hchoose⟩
    exact ⟨(htick.trans hlist).trans hasked, hv.trans hlisted, hchoose⟩

/-- A run waits for as many instances as there are to stay. -/
structure Ready (plan : Plan) (left : List Instance) (due : Nat) (s : Site) : Prop where
  sound : Sound plan s.group
  going : s.point.stopped = false
  waits : ∃ ticker, ticker.due = due ∧ s.point.status =
    .waiting (.replace (plan.target.wanted s.group.members).length) ticker
  left_eq : plan.source.destroyOrder (plan.target.unwanted s.group.members) = left

variable {left others : List Instance} {victim : Instance} {due : Nat}

theorem Ready.inevitably_proceed (hlag : ∃ late, lag late) (h : Ready plan left due s) :
    Inevitably (Site.Alone plan lag) (fun t => Onward lag 0 2 (due - s.point.now) s t ∧
      t.group = s.group.list.2.list.2 ∧ t.point.status =
        (plan.proceed (plan.target.wanted s.group.members).length s.group.members).status) s := by
  obtain ⟨ticker, rfl, hs⟩ := h.waits
  refine (inevitably_polled hlag h.sound h.going hs (Nat.min_le_left _ _)).trans ?_
  rintro t ⟨hon, hgroup, hchoose⟩
  apply inevitably_of_calling hlag hon.going hchoose
  intro u hlist hlisted hu
  rw [hgroup] at hlist hlisted hu
  rw [h.sound.list.answer_list] at hu
  exact .now ⟨hon.trans hlist, hlisted, hu⟩

theorem Ready.inevitably_destroy (hlag : ∃ late, lag late) (hperiod : 0 < s.period)
    (h : Ready plan (victim :: others) due s) :
    Inevitably (Site.Alone plan lag) (fun t => Onward lag 1 2 (due - s.point.now) s t ∧
      t.group.members.length = s.group.members.length ∧
      Ready plan others (t.point.now + min s.period longestWait) t) s := by
  refine (h.inevitably_proceed hlag).trans ?_
  rintro t ⟨hon, hgroup, ht⟩
  rw [status_proceed h.left_eq] at ht
  apply inevitably_of_calling hlag hon.going ht
  intro u hgone hdestroyed hu
  rw [hgroup] at hdestroyed
  change u.group = (s.group.list.2.list.2.destroy victim.id .rollingUpdate).1 at hdestroyed
  have hsound := h.sound.list.list
  have hmem : victim ∈ plan.target.unwanted s.group.list.2.list.2.members := by
    rw [← (Settings.destroyOrder_perm plan.source _).mem_iff]
    exact h.left_eq.symm ▸ List.mem_cons_self
  have hready : Ready plan others (u.point.now + min s.period longestWait) u := by
    refine ⟨?_, hgone.going, ?_, ?_⟩
    · rw [hdestroyed]
      exact hsound.destroy _ _
    · obtain ⟨fresh, hfresh⟩ :=
        Group.wanted_destroy hsound.lineage hsound.replacement hmem .rollingUpdate
      rw [hdestroyed, hfresh, List.length_append, List.length_singleton]
      rw [hon.period_eq, Plan.resume, await, dif_pos hperiod] at hu
      exact ⟨_, rfl, hu⟩
    · rw [hdestroyed]
      exact Group.destroyOrder_destroy hsound.lineage h.left_eq _
  refine .now ⟨hon.trans hgone, ?_, hready⟩
  rw [hdestroyed]
  exact Group.length_members_destroy hsound.replacement _ _

/-- A run that waits replaces what is left, one instance in each round. -/
theorem Ready.inevitably_done (hlag : ∃ late, lag late) (left : List Instance) :
    ∀ {s : Site} {due : Nat}, 0 < s.period → Ready plan left due s →
      Inevitably (Site.Alone plan lag) (fun t =>
        Onward lag left.length (2 * left.length + 2)
          (due - s.point.now + left.length * min s.period longestWait) s t ∧
        t.group.members.length = s.group.members.length ∧
        plan.target.unwanted t.group.members = [] ∧ t.point.status = .ended .done) s := by
  induction left with
  | nil =>
      intro s due _ h
      refine (h.inevitably_proceed hlag).mono ?_
      rintro t ⟨hon, hgroup, ht⟩
      have hnone : plan.target.unwanted s.group.members = [] :=
        Settings.destroyOrder_eq_nil_iff.1 h.left_eq
      rw [status_proceed_of_nil _ hnone] at ht
      have hmembers : t.group.members = s.group.members := by
        rw [hgroup]
        rfl
      refine ⟨?_, congrArg List.length hmembers, ?_, ht⟩
      · simpa using hon
      · rw [hmembers]
        exact hnone
  | cons victim others ih =>
      intro s due hperiod h
      refine (h.inevitably_destroy hlag hperiod).trans ?_
      rintro t ⟨hon, hlength, hready⟩
      refine (ih (hon.period_eq ▸ hperiod) hready).mono ?_
      rintro u ⟨hrest, hlength', hnone, hdone⟩
      refine ⟨?_, hlength'.trans hlength, hnone, hdone⟩
      have hcap (cap : Nat) : due - s.point.now + (others.length + 1) * cap =
          due - s.point.now + (t.point.now + cap - t.point.now + others.length * cap) := by
        rw [Nat.add_sub_cancel_left, Nat.add_mul, Nat.one_mul, Nat.add_comm cap]
      have hlistings : 2 * (others.length + 1) + 2 = 2 + (2 * others.length + 2) := by omega
      have hall := hon.trans hrest
      rw [hon.period_eq, ← hcap, ← hlistings, Nat.add_comm 1] at hall
      exact hall

/-- What a run has to show when it has replaced all that was to be replaced. -/
structure Converged (plan : Plan) (g : Group) (t : Site) : Prop where
  done : t.point.status = .ended .done
  destroys_eq : destroys (replies t.history) = (plan.target.unwanted g.members).length
  listings_eq : listings (replies t.history) = 2 * (plan.target.unwanted g.members).length + 3
  length_eq : t.group.members.length = g.members.length
  unwanted_eq : plan.target.unwanted t.group.members = []

theorem Sound.inevitably_converged {g : Group} {period now : Nat} (hsound : Sound plan g)
    (hlag : ∃ late, lag late) (hperiod : 0 < period) :
    Inevitably (Site.Alone plan lag) (fun t => Converged plan g t ∧
      ((∀ late, lag late → late = 0) → t.point.now =
        now + ((plan.target.unwanted g.members).length + 1) * min period longestWait))
      ⟨g, period, ⟨now, false, .calling .survey⟩, []⟩ := by
  apply inevitably_of_calling hlag rfl rfl
  intro s hlist hgroup hs
  rw [hsound.answer_list, Plan.resume, await, dif_pos hperiod] at hs
  have hready : Ready plan (plan.source.destroyOrder (plan.target.unwanted g.members))
      (s.point.now + min period longestWait) s := by
    refine ⟨?_, hlist.going, ?_, ?_⟩
    · rw [hgroup]
      exact hsound.list
    · rw [hgroup]
      exact ⟨_, rfl, hs⟩
    · rw [hgroup]
      rfl
  refine (Ready.inevitably_done hlag _ (hlist.period_eq ▸ hperiod) hready).mono ?_
  rintro t ⟨hon, hlength, hnone, hdone⟩
  have hall := hlist.trans hon
  have hdestroys : destroys (replies t.history) =
      0 + (0 + (plan.source.destroyOrder (plan.target.unwanted g.members)).length) :=
    hall.destroys_eq
  have hlistings : listings (replies t.history) =
      0 + (1 + (2 * (plan.source.destroyOrder (plan.target.unwanted g.members)).length + 2)) :=
    hall.listings_eq
  rw [(Settings.destroyOrder_perm plan.source _).length_eq] at hall hdestroys hlistings
  refine ⟨⟨hdone, by omega, by omega, ?_, hnone⟩, ?_⟩
  · rw [hlength, hgroup]
    rfl
  · intro hexact
    have hnow := hall.now_eq hexact
    rw [Nat.add_sub_cancel_left, hlist.period_eq] at hnow
    change t.point.now = now + (0 + (min period longestWait + _ * min period longestWait)) at hnow
    rw [hnow, Nat.add_mul, Nat.one_mul, Nat.zero_add, Nat.add_comm (min period longestWait)]

/-- A run that nobody disturbs ends, done, where all that stays and all that comes is healthy. How
late calls are answered and ticks are taken makes no difference, except to the time at which it
ends. -/
theorem run_converges {g : Group} {period now : Nat} (hlag : ∃ late, lag late)
    (hperiod : 0 < period) (hids : (g.members.map Instance.id).Nodup)
    (hreplacement : g.replacement = some plan.target.revision)
    (hfresh : g.replacementHealth = .healthy) (hlisted : g.failing = false)
    (hhealthy : ∀ i ∈ plan.target.wanted g.members, g.health i.id = .healthy) :
    Inevitably (Site.Alone plan lag) (fun t => Converged plan g t ∧
      ((∀ late, lag late → late = 0) → t.point.now =
        now + ((plan.target.unwanted g.members).length + 1) * min period longestWait))
      ⟨g, period, ⟨now, false, .calling .survey⟩, []⟩ := by
  have hlineage : g.Lineage plan.target.revision :=
    .of_nodup hids fun r h => Option.some.inj (h.symm.trans hreplacement)
  have hsound : Sound plan g := ⟨hlineage, hreplacement, hfresh, hlisted, hhealthy⟩
  exact hsound.inevitably_converged hlag hperiod

open Sample in
/-- A protected member stays. Another one is unhealthy, but is to be replaced. -/
theorem run_converges_protected :
    let g : Group := Group.setHealth
      { members := [own, protege, old "c"], replacement := some "r2" } "c" .unhealthy
    Inevitably (Site.Alone moving fun late => late = 0)
      (fun t => Converged moving g t ∧ destroys (replies t.history) = 2 ∧
        listings (replies t.history) = 7 ∧ t.point.now = 30)
      ⟨g, 10, ⟨0, false, .calling .survey⟩, []⟩ := by
  intro g
  have hwanted : moving.target.wanted g.members = [protege] := rfl
  have hunwanted : moving.target.unwanted g.members = [own, old "c"] := rfl
  have hhealthy : ∀ i ∈ moving.target.wanted g.members, g.health i.id = .healthy := by
    rw [hwanted]
    simpa using (by decide : g.health protege.id = .healthy)
  have hlag : ∃ late, late = 0 := ⟨0, rfl⟩
  have hperiod : 0 < 10 := by decide
  refine (run_converges hlag hperiod (by decide) rfl rfl rfl hhealthy).mono ?_
  rintro t ⟨h, hnow⟩
  have hdestroys := h.destroys_eq
  have hlistings := h.listings_eq
  have hnow := hnow fun _ => id
  rw [hunwanted] at hdestroys hlistings hnow
  exact ⟨h, hdestroys, hlistings, hnow⟩

open Sample in
/-- With a poll interval above the longest wait, a run ends before the interval has passed. -/
theorem not_inevitably_of_longestWait_lt :
    let g : Group := { members := [new "a"], replacement := some "r2" }
    (g.members.map Instance.id).Nodup ∧ g.replacement = some Sample.plan.target.revision ∧
      g.replacementHealth = .healthy ∧ g.failing = false ∧
      (∀ i ∈ Sample.plan.target.wanted g.members, g.health i.id = .healthy) ∧
      ¬Inevitably (Site.Alone Sample.plan fun late => late = 0)
        (fun t => Converged Sample.plan g t ∧ t.point.now =
          ((Sample.plan.target.unwanted g.members).length + 1) * 2000000000000)
        ⟨g, 2000000000000, ⟨0, false, .calling .survey⟩, []⟩ := by
  intro g
  have hids : (g.members.map Instance.id).Nodup := by decide
  have hwanted : Sample.plan.target.wanted g.members = [new "a"] := rfl
  have hunwanted : Sample.plan.target.unwanted g.members = [] := rfl
  have hhealthy : ∀ i ∈ Sample.plan.target.wanted g.members, g.health i.id = .healthy := by
    rw [hwanted]
    simpa using (by decide : g.health (new "a").id = .healthy)
  refine ⟨hids, rfl, rfl, rfl, hhealthy, ?_⟩
  intro hclaimed
  have hlineage : g.Lineage Sample.plan.target.revision :=
    .of_nodup hids fun r h => (Option.some.inj h).symm
  have hsound : Sound Sample.plan g := ⟨hlineage, rfl, rfl, rfl, hhealthy⟩
  have hlag : ∃ late, late = 0 := ⟨0, rfl⟩
  have hperiod : 0 < 2000000000000 := by decide
  obtain ⟨t, hsteps, h, hnow⟩ := (hsound.inevitably_converged hlag hperiod).exists_steps
  obtain ⟨-, hlate⟩ := hclaimed.of_stuck (fun t ht u => Site.not_alone_of_ended ht.1.done) hsteps
    fun u => Site.not_alone_of_ended h.done
  have hnow := hnow fun _ => id
  rw [hlate, hunwanted] at hnow
  exact absurd hnow (by decide)

end Rollout.Update
