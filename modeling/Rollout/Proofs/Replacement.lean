import Rollout.Proofs.Agreement
import Rollout.Proofs.Clockwork
import Rollout.Proofs.Convergence

/-!
# Rounds of an undisturbed rehearsal

In a rehearsal that nobody disturbs, a round of a run is one poll of instances that are healthy,
and the destroy of the next instance. What comes next depends on the replacement: a run goes on
with the next round if it is healthy, fails if it is unhealthy, and polls for ever if nothing is
known about it.
-/

namespace Rollout

open Update

def Group.relisted (g : Group) (n : Nat) : Group := { g with listCalls := g.listCalls + n }

namespace Update

/-- Every member that is to stay is healthy, and the group can be listed. -/
structure Calm (plan : Plan) (g : Group) : Prop where
  lineage : g.Lineage plan.target.revision
  replacement : g.replacement = some plan.target.revision
  listed : g.failing = false
  healthy : ∀ i ∈ plan.target.wanted g.members, g.health i.id = .healthy

/-- What is to stay in a group are some instances that are healthy, and a replacement. -/
structure Stalled (target : Settings) (staying : List Instance) (fresh : Instance) (g : Group) :
    Prop where
  wanted_eq : target.wanted g.members = staying ++ [fresh]
  healthy : ∀ i ∈ staying, g.health i.id = .healthy
  listed : g.failing = false

section Groups

variable {plan : Plan} {g : Group}

theorem Calm.sound (h : Calm plan g) (hfresh : g.replacementHealth = .healthy) : Sound plan g :=
  ⟨h.lineage, h.replacement, hfresh, h.listed, h.healthy⟩

theorem Calm.list (h : Calm plan g) : Calm plan g.list.2 :=
  ⟨⟨h.lineage.replacement_eq, h.lineage.ids⟩, h.replacement, h.listed, h.healthy⟩

theorem Stalled.list {target : Settings} {staying : List Instance} {fresh : Instance}
    (h : Stalled target staying fresh g) : Stalled target staying fresh g.list.2 :=
  ⟨h.wanted_eq, h.healthy, h.listed⟩

/-- The first destroy leaves the group with a replacement, if nobody has its id already. -/
theorem Calm.stalled (h : Calm plan g) {victim : Instance}
    (hvictim : victim ∈ plan.target.unwanted g.members)
    (hids : ∀ i ∈ plan.target.wanted g.members, i.id ≠ Group.replacementId g.serial)
    (reason : Reason) :
    Stalled plan.target (plan.target.wanted g.members)
        (Group.replacementOf victim plan.target.revision g.serial)
        (g.destroy victim.id reason).1 ∧
      (g.destroy victim.id reason).1.health
        (Group.replacementOf victim plan.target.revision g.serial).id = g.replacementHealth := by
  have hmem := (Settings.mem_unwanted.1 hvictim).1
  refine ⟨⟨Group.wanted_destroy_eq h.lineage h.replacement hvictim reason, ?_, ?_⟩, ?_⟩
  · intro i hi
    rw [Group.health_destroy hmem h.replacement, if_neg (hids i hi), h.healthy i hi, ite_self]
  · rw [Group.failing_destroy, h.listed]
  · rw [Group.health_destroy hmem h.replacement, Group.id_replacementOf, if_pos rfl]

end Groups

theorem await_eq {period now : Nat} (hperiod : 0 < period) (aim : Aim) :
    await period now aim = .waiting aim (.start period now hperiod) :=
  dif_pos hperiod

theorem advance_start {period now : Nat} (hperiod : 0 < period) :
    (Ticker.start period now hperiod).advance (now + min period longestWait) =
      .start period (now + min period longestWait) hperiod := by
  simp [Ticker.start, Ticker.advance]

end Update

namespace Rehearsal.Play

variable {setup : Setup} {period deadline now expected : Nat} {agenda : List (Nat × Action)}
  {g : Group} {aim : Aim} {ticker : Ticker} {tally : Tally} {told : List (Nat × Note)} {p : Play}

theorem answer_list_of_listed (hlisted : g.failing = false) :
    (g.answer .list).1 = .ok g.members := by
  simp [Group.answer, Group.list, hlisted]

theorem Stands.survey (hprompt : setup.Prompt)
    (h : p.Stands agenda now g (.calling .survey) told) (hlater : ∀ e ∈ agenda, now < e.1)
    (hlisted : g.failing = false) :
    p.Passes setup period deadline (Made agenda now g.list.2 told
      ⟨await period now (.replace (setup.plan.target.wanted g.members).length),
        [.starting (setup.plan.target.wanted g.members).length setup.plan.target.size]⟩) := by
  have hanswer : p.Passes setup period deadline (Made agenda now g.list.2 (told ++ [])
      (setup.plan.resume period now .survey (g.answer .list).1)) := h.answer hprompt hlater
  rwa [answer_list_of_listed hlisted, List.append_nil] at hanswer

theorem Stands.poll (hprompt : setup.Prompt) (hperiod : 0 < period)
    (h : p.Stands agenda now g (await period now aim) told) (hlisted : g.failing = false)
    (hlater : ∀ e ∈ agenda, now + min period longestWait < e.1)
    (hdeadline : now + min period longestWait ≤ deadline) :
    p.Passes setup period deadline (Made agenda (now + min period longestWait) g.list.2 told
      (setup.plan.pollOn aim (.start period (now + min period longestWait) hperiod) {}
        (setup.plan.target.wanted g.members))) := by
  have hdue : max now (Ticker.start period now hperiod).due = now + min period longestWait :=
    max_eq_right (Nat.le_add_right _ _)
  rw [await_eq hperiod] at h
  have htick : p.Passes setup period deadline (Stands agenda _ g (.calling (.poll aim _)) told) :=
    h.tick (by rwa [hdue]) (by rwa [hdue])
  rw [hdue, advance_start] at htick
  apply htick.trans
  intro q hq
  have hanswer : q.Passes setup period deadline
      (Made agenda (now + min period longestWait) g.list.2 (told ++ [])
        (setup.plan.resume period _ (.poll aim _) (g.answer .list).1)) := hq.answer hprompt hlater
  rwa [answer_list_of_listed hlisted, List.append_nil] at hanswer

/-- Those that are healthy are asked after, one after the other. -/
theorem Stands.ask (hprompt : setup.Prompt) (hlater : ∀ e ∈ agenda, now < e.1)
    {instances : List Instance} (rest after : List Instance) (hall : instances = rest ++ after)
    (hhealthy : ∀ i ∈ rest, g.health i.id = .healthy)
    (h : Made agenda now g told (setup.plan.pollOn aim ticker tally instances) p) :
    p.Passes setup period deadline (Made agenda now g told (setup.plan.pollOn aim ticker
      ⟨tally.healthy + rest.length, tally.unknown⟩ after)) := by
  subst hall
  induction rest generalizing tally p with
  | nil => exact .here h
  | cons i rest ih =>
      have hanswer : p.Passes setup period deadline (Made agenda now g (told ++ [] ++ [])
          (setup.plan.resume period now (.probe aim ticker tally i (rest ++ after))
            (g.health i.id))) := h.answer hprompt hlater
      rw [hhealthy i List.mem_cons_self, List.append_nil, List.append_nil] at hanswer
      apply hanswer.trans
      intro q hq
      have hrest := ih (fun j hj => hhealthy j (List.mem_cons_of_mem _ hj)) hq
      rwa [Nat.add_assoc, Nat.add_comm 1] at hrest

/-- A wait ends where enough are healthy, and then the group is listed again. -/
theorem Stands.choose (hprompt : setup.Prompt) (hlater : ∀ e ∈ agenda, now < e.1)
    (hlisted : g.failing = false)
    (h : Made agenda now g told (setup.plan.pollOn (.replace expected) ticker tally []) p)
    (hmet : (Aim.replace expected).threshold setup.plan ≤ tally.healthy) :
    p.Passes setup period deadline (Made agenda now g.list.2
      (told ++ [(now, .quiesced ((Aim.replace expected).threshold setup.plan))])
      (setup.plan.proceed expected g.members)) := by
  simp only [Plan.pollOn, Plan.settle, if_pos hmet] at h
  have hanswer : p.Passes setup period deadline (Made agenda now g.list.2
      (told ++ [(now, .quiesced ((Aim.replace expected).threshold setup.plan))] ++ [])
      (setup.plan.resume period now (.choose expected) (g.answer .list).1)) :=
    h.answer hprompt hlater
  rwa [answer_list_of_listed hlisted, List.append_nil] at hanswer

/-- A round in which all that is to stay is healthy. -/
theorem Stands.round (hprompt : setup.Prompt) (hperiod : 0 < period) (hcalm : Calm setup.plan g)
    (h : p.Stands agenda now g
      (await period now (.replace (setup.plan.target.wanted g.members).length)) told)
    (hlater : ∀ e ∈ agenda, now + min period longestWait < e.1)
    (hdeadline : now + min period longestWait ≤ deadline) :
    p.Passes setup period deadline (Made agenda (now + min period longestWait) g.list.2.list.2
      (told ++ [(now + min period longestWait, .quiesced ((Aim.replace
        (setup.plan.target.wanted g.members).length).threshold setup.plan))])
      (setup.plan.proceed (setup.plan.target.wanted g.members).length g.members)) := by
  have hhealthy : ∀ i ∈ setup.plan.target.wanted g.members, g.list.2.health i.id = .healthy :=
    hcalm.healthy
  have hlisted : g.list.2.failing = false := hcalm.listed
  apply (h.poll hprompt hperiod hcalm.listed hlater hdeadline).trans
  intro q hq
  apply (hq.ask hprompt hlater _ [] (List.append_nil _).symm hhealthy).trans
  intro r hr
  apply hr.choose hprompt hlater hlisted
  exact (Nat.min_le_left _ _).trans (Nat.le_add_left _ _)

theorem Stands.destroy (hprompt : setup.Prompt) (hlater : ∀ e ∈ agenda, now < e.1)
    {snapshot others : List Instance} {victim : Instance}
    (hleft : setup.plan.source.destroyOrder (setup.plan.target.unwanted snapshot) =
      victim :: others)
    (h : Made agenda now g told (setup.plan.proceed expected snapshot) p) :
    p.Passes setup period deadline (Stands agenda now (g.destroy victim.id .rollingUpdate).1
      (await period now (.replace (expected + 1)))
      (told ++ [(now, .destroying (others.length + 1) victim.id .rollingUpdate)] ++
        (g.destroy victim.id .rollingUpdate).2.map (Prod.mk now))) := by
  simp only [Plan.proceed, hleft] at h
  have hanswer : p.Passes setup period deadline (Made agenda now
      (g.destroy victim.id .rollingUpdate).1
      (told ++ [(now, .destroying (others.length + 1) victim.id .rollingUpdate)] ++
        (g.destroy victim.id .rollingUpdate).2.map (Prod.mk now))
      ⟨await period now (.replace (expected + 1)), []⟩) := h.answer hprompt hlater
  rwa [made_nil] at hanswer

/-! ## After the first destroy -/

section Stalled

variable {staying : List Instance} {fresh : Instance}

theorem Stands.ask_fresh (hprompt : setup.Prompt) (hperiod : 0 < period)
    (hstalled : Stalled setup.plan.target staying fresh g)
    (h : p.Stands agenda now g (await period now aim) told)
    (hlater : ∀ e ∈ agenda, now + min period longestWait < e.1)
    (hdeadline : now + min period longestWait ≤ deadline) :
    p.Passes setup period deadline (Made agenda (now + min period longestWait) g.list.2 told
      (setup.plan.resume period (now + min period longestWait)
        (.probe aim (.start period (now + min period longestWait) hperiod) ⟨staying.length, 0⟩
          fresh []) (g.health fresh.id))) := by
  apply (h.poll hprompt hperiod hstalled.listed hlater hdeadline).trans
  intro q hq
  apply (hq.ask hprompt hlater staying [fresh] hstalled.wanted_eq hstalled.list.healthy).trans
  intro r hr
  have hanswer : r.Passes setup period deadline (Made agenda _ g.list.2 (told ++ [] ++ [])
      (setup.plan.resume period _ (.probe aim _ ⟨0 + staying.length, 0⟩ fresh [])
        (g.health fresh.id))) := hr.answer hprompt hlater
  rwa [List.append_nil, List.append_nil, Nat.zero_add] at hanswer

/-- What is told in each poll in which nothing is known about the replacement. -/
def stallNotes (staying : List Instance) (fresh : Instance) : List Note :=
  [.unknownHealth fresh.id, .waitingUnknown staying.length 1 (staying.length + 1)]

theorem Stands.stall (hprompt : setup.Prompt) (hperiod : 0 < period)
    (hstalled : Stalled setup.plan.target staying fresh g)
    (hunknown : g.health fresh.id = .unknown) (hsize : staying.length < setup.plan.target.size)
    (h : p.Stands agenda now g (await period now (.replace (staying.length + 1))) told)
    (hlater : ∀ e ∈ agenda, now + min period longestWait < e.1)
    (hdeadline : now + min period longestWait ≤ deadline) :
    p.Passes setup period deadline (Made agenda (now + min period longestWait) g.list.2 told
      ⟨await period (now + min period longestWait) (.replace (staying.length + 1)),
        stallNotes staying fresh⟩) := by
  have hasked := h.ask_fresh hprompt hperiod hstalled hlater hdeadline
  have hthreshold : (Aim.replace (staying.length + 1)).threshold setup.plan =
      staying.length + 1 := Nat.min_eq_left hsize
  have hshort : ¬staying.length + 1 ≤ staying.length := Nat.not_succ_le_self _
  rw [hunknown] at hasked
  simpa only [Plan.resume, Plan.pollOn, Plan.settle, hthreshold, if_neg hshort, Plan.waitNote,
    Nat.zero_add, if_pos Nat.one_pos, await_eq hperiod, stallNotes] using hasked

/-- As long as nothing acts and nothing is known about the replacement, there is a poll in each
period, and nothing else. -/
theorem Stands.stall_on (hprompt : setup.Prompt) (hperiod : 0 < period)
    (hunknown : g.health fresh.id = .unknown) (hsize : staying.length < setup.plan.target.size)
    (hstalled : Stalled setup.plan.target staying fresh g)
    (h : p.Stands agenda now g (await period now (.replace (staying.length + 1))) told) (n : Nat)
    (hlater : ∀ e ∈ agenda, now + n * min period longestWait < e.1)
    (hdeadline : now + n * min period longestWait ≤ deadline) :
    p.Passes setup period deadline fun q => ∃ later, (∀ e ∈ later, e.2 ∈ stallNotes staying fresh) ∧
      q.Stands agenda (now + n * min period longestWait)
        (g.relisted n)
        (await period (now + n * min period longestWait) (.replace (staying.length + 1)))
        (told ++ later) := by
  induction n with
  | zero =>
      refine .here ⟨[], by simp, ?_⟩
      rw [Nat.zero_mul, Nat.add_zero, List.append_nil]
      exact h
  | succ n ih =>
      rw [Nat.add_mul, Nat.one_mul, ← Nat.add_assoc] at hlater hdeadline ⊢
      have hsooner := ih (fun e he => (Nat.le_add_right _ _).trans_lt (hlater e he))
        ((Nat.le_add_right _ _).trans hdeadline)
      apply hsooner.trans
      rintro q ⟨later, hnotes, hq⟩
      have hagain : Stalled setup.plan.target staying fresh (g.relisted n) :=
        ⟨hstalled.wanted_eq, hstalled.healthy, hstalled.listed⟩
      apply (hq.stall hprompt hperiod hagain hunknown hsize hlater hdeadline).trans
      intro r hr
      refine .here ⟨later ++ (stallNotes staying fresh).map
        (Prod.mk (now + n * min period longestWait + min period longestWait)), ?_, ?_⟩
      · intro e he
        rcases List.mem_append.1 he with he | he
        · exact hnotes e he
        · obtain ⟨note, hnote, rfl⟩ := List.mem_map.1 he
          exact hnote
      · rw [← List.append_assoc]
        exact hr

/-- Where nobody acts and nothing is known about the replacement, the deadline finds the update
between two polls. -/
theorem Stands.finish_stalled (hprompt : setup.Prompt) (hperiod : 0 < period)
    (hunknown : g.health fresh.id = .unknown) (hsize : staying.length < setup.plan.target.size)
    (hstalled : Stalled setup.plan.target staying fresh g)
    (h : p.Stands [] now g (await period now (.replace (staying.length + 1))) told)
    (hdeadline : now ≤ deadline) :
    ∃ later ticker, (∀ e ∈ later, e.2 ∈ stallNotes staying fresh) ∧
      (p.finish setup period deadline).Stands [] deadline
        (g.relisted ((deadline - now) / min period longestWait))
        (.waiting (.replace (staying.length + 1)) ticker) (told ++ later) := by
  have hbefore : now + (deadline - now) / min period longestWait * min period longestWait ≤
      deadline := by
    have hle := Nat.div_mul_le_self (deadline - now) (min period longestWait)
    omega
  have hafter : deadline < now + (deadline - now) / min period longestWait *
      min period longestWait + min period longestWait := by
    have hlt := Nat.lt_div_mul_add (a := deadline - now) (Nat.lt_min.2 ⟨hperiod, longestWait_pos⟩)
    omega
  obtain ⟨q, hfinish, later, hnotes, hq⟩ := h.stall_on hprompt hperiod hunknown hsize hstalled
    ((deadline - now) / min period longestWait) (by simp) hbefore
  rw [await_eq hperiod] at hq
  rw [hfinish]
  exact ⟨later, _, hnotes, hq.finish_of_lt hbefore hafter (by simp)⟩

/-- A stop ends an update that knows nothing about the replacement. -/
theorem Stands.stop_stalled {time : Nat} (hprompt : setup.Prompt) (hperiod : 0 < period)
    (hunknown : g.health fresh.id = .unknown) (hsize : staying.length < setup.plan.target.size)
    (hstalled : Stalled setup.plan.target staying fresh g)
    (h : p.Stands [(time, .stop)] now g (await period now (.replace (staying.length + 1))) told)
    (hnow : now < time) (hdeadline : time ≤ deadline) :
    (p.finish setup period deadline).status = .ended (.failed .halted) ∧
      ∃ n, (p.finish setup period deadline).world.backend = .group (g.relisted n) := by
  -- All polls that are due before the stop come before it.
  have hbefore : now + (time - 1 - now) / min period longestWait * min period longestWait <
      time := by
    have hle := Nat.div_mul_le_self (time - 1 - now) (min period longestWait)
    omega
  have hafter : time ≤ now + (time - 1 - now) / min period longestWait *
      min period longestWait + min period longestWait := by
    have hlt := Nat.lt_div_mul_add (a := time - 1 - now) (Nat.lt_min.2 ⟨hperiod, longestWait_pos⟩)
    omega
  obtain ⟨q, hfinish, later, -, hq⟩ := h.stall_on hprompt hperiod hunknown hsize hstalled
    ((time - 1 - now) / min period longestWait) (by simpa using hbefore)
    (hbefore.le.trans hdeadline)
  rw [await_eq hperiod] at hq
  obtain ⟨hstatus, hbackend⟩ := hq.finish_of_stop hbefore hafter hdeadline
  rw [hfinish]
  exact ⟨hstatus, _, hbackend⟩

end Stalled

end Rehearsal.Play

end Rollout
