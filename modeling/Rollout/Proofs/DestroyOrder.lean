import Mathlib.Data.List.Nodup
import Mathlib.Data.Prod.Lex
import Mathlib.Data.String.Basic
import Mathlib.Order.BooleanAlgebra.Basic
import Rollout.Settings

/-!
# The order of destroys

Instances are destroyed in ascending order of their ranks: whether it is the controller's own one,
and then its id. Instances of one rank keep the order of the snapshot, so that the first of all is
the earliest one of the least rank.
-/

namespace Rollout.Settings

theorem mem_unwanted {s : Settings} {i : Instance} {snapshot : List Instance} :
    i ∈ s.unwanted snapshot ↔ i ∈ snapshot ∧ s.wants i = false := by
  simp [unwanted]

def rank (s : Settings) (i : Instance) : Bool ×ₗ String := toLex (s.isSelf i, i.id)

theorem precedes_iff (s : Settings) (a b : Instance) :
    s.precedes a b = true ↔ s.rank a ≤ s.rank b := by
  unfold precedes rank
  rw [Prod.Lex.toLex_le_toLex]
  by_cases h : s.isSelf a = s.isSelf b
  · simp [h]
  · cases ha : s.isSelf a <;> cases hb : s.isSelf b <;> simp_all

theorem precedes_trans (s : Settings) (a b c : Instance) (hab : s.precedes a b = true)
    (hbc : s.precedes b c = true) : s.precedes a c = true := by
  rw [precedes_iff] at *
  exact hab.trans hbc

theorem precedes_total (s : Settings) (a b : Instance) :
    (s.precedes a b || s.precedes b a) = true := by
  rw [Bool.or_eq_true, precedes_iff, precedes_iff]
  exact le_total _ _

theorem destroyOrder_perm (s : Settings) (instances : List Instance) :
    (s.destroyOrder instances).Perm instances :=
  List.mergeSort_perm _ _

theorem destroyOrder_eq_nil_iff {s : Settings} {instances : List Instance} :
    s.destroyOrder instances = [] ↔ instances = [] := by
  rw [← List.length_eq_zero_iff, (destroyOrder_perm s instances).length_eq,
    List.length_eq_zero_iff]

theorem destroyOrder_eq_self {s : Settings} {instances : List Instance}
    (h : instances.Pairwise fun a b => s.precedes a b = true) :
    s.destroyOrder instances = instances :=
  List.mergeSort_of_pairwise h

theorem pairwise_destroyOrder (s : Settings) (instances : List Instance) :
    (s.destroyOrder instances).Pairwise fun a b => s.rank a ≤ s.rank b :=
  (List.pairwise_mergeSort s.precedes_trans s.precedes_total instances).imp
    fun h => (s.precedes_iff _ _).1 h

/-- Instances with ids of their own have one order of destroys only. -/
theorem destroyOrder_eq_of_perm {s : Settings} {instances sorted : List Instance}
    (hids : (instances.map Instance.id).Nodup)
    (hsorted : sorted.Pairwise fun a b => s.rank a ≤ s.rank b) (hperm : sorted.Perm instances) :
    s.destroyOrder instances = sorted := by
  have hperm' := (destroyOrder_perm s instances).trans hperm.symm
  refine hperm'.eq_of_pairwise ?_ (pairwise_destroyOrder s instances) hsorted
  intro a b ha hb hab hba
  have hid : a.id = b.id := congrArg (fun k => (ofLex k).2) (le_antisymm hab hba)
  have hinj := List.inj_on_of_nodup_map hids
  exact hinj ((destroyOrder_perm s instances).mem_iff.1 ha) (hperm.mem_iff.1 hb) hid

/-- Without the first of some instances with ids of their own, the others keep their order. -/
theorem destroyOrder_append {s : Settings} {before after others : List Instance}
    {first : Instance} (hids : ((before ++ first :: after).map Instance.id).Nodup)
    (h : s.destroyOrder (before ++ first :: after) = first :: others) :
    s.destroyOrder (before ++ after) = others := by
  have hsorted := pairwise_destroyOrder s (before ++ first :: after)
  have hperm := destroyOrder_perm s (before ++ first :: after)
  rw [h] at hsorted hperm
  refine destroyOrder_eq_of_perm ?_ (List.pairwise_cons.1 hsorted).2 ?_
  · exact hids.sublist (((List.sublist_cons_self first after).append_left before).map _)
  · exact (hperm.trans List.perm_middle).cons_inv

/-- Instances of one rank keep their order. -/
theorem filter_destroyOrder (s : Settings) (instances : List Instance) (k : Bool ×ₗ String) :
    (s.destroyOrder instances).filter (fun i => s.rank i = k) =
      instances.filter fun i => s.rank i = k := by
  have hsorted : (instances.filter fun i => s.rank i = k).Pairwise
      fun a b => s.precedes a b = true := by
    refine List.pairwise_of_forall_mem_list fun a ha b hb => (s.precedes_iff a b).2 ?_
    have hak : s.rank a = k := by simpa using (List.mem_filter.1 ha).2
    have hbk : s.rank b = k := by simpa using (List.mem_filter.1 hb).2
    rw [hak, hbk]
  have hsub : (instances.filter fun i => s.rank i = k).Sublist (s.destroyOrder instances) :=
    List.sublist_mergeSort s.precedes_trans s.precedes_total hsorted List.filter_sublist
  have hfilter := hsub.filter fun i => decide (s.rank i = k)
  rw [List.filter_filter] at hfilter
  simp only [Bool.and_self] at hfilter
  exact (hfilter.eq_of_length ((destroyOrder_perm s instances).filter _).length_eq.symm).symm

/-- The first instance in the order of destroys has a lower rank than those before it in the
snapshot, and no higher rank than those after it. -/
theorem split_of_destroyOrder_eq_cons {s : Settings} {instances others : List Instance}
    {first : Instance} (h : s.destroyOrder instances = first :: others) :
    ∃ before after, instances = before ++ first :: after ∧
      (∀ i ∈ before, s.rank first < s.rank i) ∧ ∀ i ∈ after, s.rank first ≤ s.rank i := by
  have hleast : ∀ i ∈ instances, s.rank first ≤ s.rank i := by
    intro i hi
    have hsorted := pairwise_destroyOrder s instances
    rw [h] at hsorted
    have hmem : i ∈ first :: others := h ▸ (destroyOrder_perm s instances).mem_iff.2 hi
    rcases List.mem_cons.1 hmem with rfl | hmem
    · exact le_rfl
    · exact (List.pairwise_cons.1 hsorted).1 i hmem
  have hfilter : instances.filter (fun i => s.rank i = s.rank first) =
      first :: others.filter fun i => s.rank i = s.rank first := by
    rw [← filter_destroyOrder, h, List.filter_cons_of_pos (by simp)]
  obtain ⟨before, after, heq, hbefore, -, -⟩ := List.filter_eq_cons_iff.1 hfilter
  refine ⟨before, after, heq, fun i hi => ?_, fun i hi => ?_⟩
  · have hne : s.rank i ≠ s.rank first := by simpa using hbefore i hi
    exact lt_of_le_of_ne (hleast i (heq ▸ List.mem_append_left _ hi)) hne.symm
  · exact hleast i (heq ▸ List.mem_append_right _ (List.mem_cons_of_mem _ hi))

end Rollout.Settings
