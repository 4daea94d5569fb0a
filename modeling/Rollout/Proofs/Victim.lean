import Rollout.Proofs.Gating

/-!
# The choice of the next instance to destroy

Which instances a run destroys: only such as are in the listing just made, are out of date and are
not protected, and of these the first one of the least rank, so that the controller's own instance
comes last.
-/

namespace Rollout

namespace Settings

theorem wants_eq_false_iff (s : Settings) (i : Instance) :
    s.wants i = false ↔ i.revision? ≠ some s.revision ∧ s.protects i = false := by
  simp [wants, Instance.hasRevision]

theorem isSelf_eq_true_iff (s : Settings) (i : Instance) :
    s.isSelf i = true ↔
      ∃ slot, s.selfSlot = some slot ∧ (i.slot = some slot ∨ Tags.slot? i.tags = some slot) := by
  unfold isSelf
  split
  · rename_i hnone
    simp [hnone]
  · rename_i slot hsome
    simp [hsome]

theorem isSelf_eq_false_of_never {s : Settings} {i : Instance} (hpolicy : s.policy = .never)
    (h : s.protects i = false) : s.isSelf i = false := by
  simpa [protects, hpolicy] using h

theorem isSelf_le_of_rank_le {s : Settings} {a b : Instance} (h : s.rank a ≤ s.rank b)
    (ha : s.isSelf a = true) : s.isSelf b = true := by
  rcases Prod.Lex.toLex_le_toLex.1 h with hlt | ⟨heq, -⟩
  · exact Bool.eq_true_of_true_le (ha ▸ hlt.le)
  · have hself : s.isSelf a = s.isSelf b := heq
    rw [← hself]
    exact ha

end Settings

namespace Update

structure Eligible (plan : Plan) (snapshot : List Instance) (victim : Instance) : Prop where
  listed : victim ∈ snapshot
  outdated : victim.revision? ≠ some plan.target.revision
  not_protected : plan.target.protects victim = false
  not_own : plan.target.policy = .never → ∀ slot, plan.target.selfSlot = some slot →
    victim.slot ≠ some slot ∧ Tags.slot? victim.tags ≠ some slot
  /-- It is the first one of the least rank. -/
  first : ∃ before after, plan.target.unwanted snapshot = before ++ victim :: after ∧
    (∀ i ∈ before, plan.source.rank victim < plan.source.rank i) ∧
    ∀ i ∈ after, plan.source.rank victim ≤ plan.source.rank i
  own_last : plan.source.isSelf victim = true →
    ∀ i ∈ plan.target.unwanted snapshot, plan.source.isSelf i = true

theorem eligible_of_destroyOrder_eq_cons {plan : Plan} {snapshot others : List Instance}
    {victim : Instance}
    (h : plan.source.destroyOrder (plan.target.unwanted snapshot) = victim :: others) :
    Eligible plan snapshot victim := by
  obtain ⟨before, after, hsplit, hbefore, hafter⟩ := Settings.split_of_destroyOrder_eq_cons h
  have hmem : victim ∈ plan.target.unwanted snapshot := by simp [hsplit]
  obtain ⟨hlisted, hunwanted⟩ := Settings.mem_unwanted.1 hmem
  obtain ⟨houtdated, hprotected⟩ := (plan.target.wants_eq_false_iff victim).1 hunwanted
  refine ⟨hlisted, houtdated, hprotected, ?_, ⟨before, after, hsplit, hbefore, hafter⟩, ?_⟩
  · intro hnever slot hslot
    have hself := Settings.isSelf_eq_false_of_never hnever hprotected
    rw [← Bool.not_eq_true, Settings.isSelf_eq_true_iff] at hself
    exact ⟨fun h => hself ⟨slot, hslot, .inl h⟩, fun h => hself ⟨slot, hslot, .inr h⟩⟩
  · intro hself i hi
    rw [hsplit] at hi
    rcases List.mem_append.1 hi with hi | hi
    · exact Settings.isSelf_le_of_rank_le (hbefore i hi).le hself
    · rcases List.mem_cons.1 hi with rfl | hi
      · exact hself
      · exact Settings.isSelf_le_of_rank_le (hafter i hi) hself

/-- Every destroy of a run is a rolling update's, of an instance that the listing just before it
made eligible. -/
theorem destroy_eligible {plan : Plan} {period : Nat} {start p : Point}
    {history : List (Nat × Event)} {stage : Stage} {victim : Instance} {reason : Reason}
    (hstart : start.status = .calling .survey) (hcourse : Course plan period start history p)
    (hcalling : p.status = .calling stage) (hdestroy : stage.call = .destroy victim reason) :
    reason = .rollingUpdate ∧
      ∃ before snapshot, replies history = before ++ [⟨.list, .ok snapshot⟩] ∧
        Eligible plan snapshot victim := by
  have hstands := hcourse.stands (by rw [hstart]; rfl)
  rw [hcalling] at hstands
  cases stage with
  | survey => simp at hdestroy
  | poll => simp at hdestroy
  | probe => simp at hdestroy
  | choose => simp at hdestroy
  | destroy expected chosen =>
      obtain ⟨rfl, rfl⟩ : chosen = victim ∧ Reason.rollingUpdate = reason := by
        simpa using hdestroy
      obtain ⟨before, choice, others, -, hchosen, hcalls⟩ := hstands
      exact ⟨rfl, before, choice, hcalls, eligible_of_destroyOrder_eq_cons hchosen⟩

namespace Sample

/-- The controller moves from the slot `m0` to the slot `m1`, where it must not be destroyed. -/
def moving : Plan :=
  { description := "m0 to m1"
    source := { revision := "r1", size := 3, selfSlot := some "m0" }
    target := { revision := "r2", size := 3, selfSlot := some "m1", policy := .never } }

/-- Out of date, and the controller's own one so far. -/
def own : Instance := (old "a").withTag Tags.slotKey "m0"

/-- Out of date, but protected from now on. -/
def protege : Instance := (old "b").withSlot "m1"

end Sample

open Sample in
/-- Of three that are out of date, the last is destroyed first, as the others are the
controller's own. -/
theorem destroy_eligible_own_last :
    ∃ history, Course moving 10 ⟨0, false, .calling .survey⟩ history
        ⟨10, false, .calling (.destroy 1 (old "c"))⟩ ∧
      ∃ before snapshot, replies history = before ++ [⟨.list, .ok snapshot⟩] ∧
        Eligible moving snapshot (old "c") := by
  have hwanted : moving.target.wanted [own, protege, old "c"] = [protege] := rfl
  have hunwanted : moving.target.unwanted [own, protege, old "c"] = [own, old "c"] := rfl
  have hown : moving.source.precedes own (old "c") = false := rfl
  have h : Course moving 10 ⟨0, false, .calling .survey⟩ _
      ⟨0, false, .waiting (.replace 1) (ticker 10)⟩ :=
    Course.refl.reply (Nat.le_refl 0) .survey (.ok [own, protege, old "c"]) rfl
      (by rw [Plan.resume, hwanted]; rfl)
  have h : Course _ _ _ _ ⟨10, false, .calling (.poll (.replace 1) (ticker 20))⟩ :=
    h.wake (Nat.zero_le 10) _ _ rfl rfl
  have h : Course _ _ _ _ ⟨10, false, .calling (.probe (.replace 1) (ticker 20) {} protege [])⟩ :=
    h.reply (Nat.le_refl 10) (.poll _ _) (.ok [own, protege, old "c"]) rfl
      (by rw [Plan.resume, hwanted]; rfl)
  have h : Course _ _ _ _ ⟨10, false, .calling (.choose 1)⟩ :=
    h.reply (Nat.le_refl 10) (.probe _ _ _ _ _) .healthy rfl rfl
  have h : Course _ _ _ _ ⟨10, false, .calling (.destroy 1 (old "c"))⟩ :=
    h.reply (Nat.le_refl 10) (.choose 1) (.ok [own, protege, old "c"]) rfl (by
      simp [Plan.resume, Plan.proceed, hunwanted, Settings.destroyOrder, List.mergeSort,
        List.MergeSort.Internal.splitInTwo, hown])
  exact ⟨_, h, (destroy_eligible rfl h rfl rfl).2⟩

end Update

end Rollout
