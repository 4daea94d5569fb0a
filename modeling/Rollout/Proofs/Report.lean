import Mathlib.Data.List.Perm.Basic
import Rollout.Simulation.Program

/-!
# What is reported at the end

Of the records of a simulation just one tells how the update ended, if the filter of the log lets
it pass. It is the last one, and if the records of an interrupted run are put into the order of
their messages, it is still there once.
-/

namespace Rollout.Simulation

open Update Rehearsal

variable {s : Setting} {filter : Log.Filter} {complaints : String} {p : Play}
  {closing : Log.Record} {records : List Log.Record}

/-- Whether a record tells how the update ended. -/
def tellsEnd (r : Log.Record) : Bool :=
  ["Update finished", "Update stopped before completion", "Update failed"].contains r.message

theorem tellsEnd_note (n : Note) : tellsEnd n.record = false := by
  cases n <;> simp [tellsEnd, Note.record]

theorem tellsEnd_of_mem_shownNotes {r : Log.Record}
    (hr : r ∈ (shownNotes s filter p).map Prod.snd) : tellsEnd r = false := by
  rw [shownNotes, List.map_map] at hr
  obtain ⟨e, -, rfl⟩ := List.mem_map.1 hr
  exact tellsEnd_note e.2

theorem mem_shownRemark {remark : Remark} {r : Log.Record} (h : r ∈ shownRemark filter remark) :
    r = remark.record := by
  unfold shownRemark at h
  split at h
  · exact List.mem_singleton.1 h
  · exact absurd h List.not_mem_nil

/-- Records end with a closing one, if the filter lets it pass, and no other one tells how the
update ended. -/
def ClosesWith (filter : Log.Filter) (closing : Log.Record) (records : List Log.Record) : Prop :=
  ∃ earlier, (∀ r ∈ earlier, tellsEnd r = false) ∧
    records = earlier ++ if filter.shows [] closing then [closing] else []

theorem ClosesWith.filter_eq (h : ClosesWith filter closing records)
    (hend : tellsEnd closing = true) :
    records.filter tellsEnd = if filter.shows [] closing then [closing] else [] := by
  obtain ⟨earlier, hearlier, rfl⟩ := h
  have hnone : earlier.filter tellsEnd = [] := by
    rw [List.filter_eq_nil_iff]
    intro r hr
    rw [hearlier r hr]
    decide
  rw [List.filter_append, hnone, List.nil_append]
  split
  · rw [List.filter_singleton, hend]
    rfl
  · rfl

/-! ## Interrupted runs -/

theorem isWaiting_of_tellsEnd {r : Log.Record} (h : tellsEnd r = true) : isWaiting r = false := by
  have hmessage : r.message = "Update finished" ∨
      r.message = "Update stopped before completion" ∨ r.message = "Update failed" := by
    simpa [tellsEnd] using h
  rcases hmessage with h | h | h <;> rw [isWaiting, h] <;> decide

/-- Only records of waiting are left out where the others are put into order. -/
theorem filter_settleOrder_perm (records : List Log.Record) :
    ((settleOrder records).filter tellsEnd).Perm (records.filter tellsEnd) := by
  have hsplit := List.takeWhile_append_dropWhile (p := fun r => !isWaiting r) (l := records)
  rw [congrArg (List.filter tellsEnd) hsplit.symm, List.filter_append]
  unfold settleOrder
  split
  · rename_i hnone
    rw [hnone, List.filter_nil, List.append_nil]
  · rename_i first rest hsome
    rw [hsome, List.filter_append]
    apply List.Perm.append_left
    have hrest : (rest.filter fun r => !isWaiting r).filter tellsEnd = rest.filter tellsEnd := by
      rw [List.filter_filter]
      apply List.filter_congr
      intro r _
      cases hend : tellsEnd r with
      | false => rfl
      | true =>
          rw [isWaiting_of_tellsEnd hend]
          rfl
    have hperm := (List.mergeSort_perm (rest.filter fun r => !isWaiting r)
      fun a b => decide (a.message ≤ b.message)).filter tellsEnd
    rw [hrest] at hperm
    rw [List.filter_cons, List.filter_cons]
    split
    · exact hperm.cons first
    · exact hperm

/-- The record of the end is there once, also where the records are put into order. -/
theorem ClosesWith.filter_settleOrder (h : ClosesWith filter closing records)
    (hend : tellsEnd closing = true) :
    (settleOrder records).filter tellsEnd =
      if filter.shows [] closing then [closing] else [] := by
  have hperm := filter_settleOrder_perm records
  rw [h.filter_eq hend] at hperm
  split at hperm
  · rw [List.perm_singleton] at hperm
    rwa [if_pos ‹_›]
  · rw [List.perm_nil] at hperm
    rwa [if_neg ‹_›]

/-! ## The outcome of an update that has ended -/

section Outcomes

variable {ending : Ending} {remark : Remark} {fault : Option Fault}

theorem closing?_eq (hstatus : p.status = .ended ending)
    (hverdict : verdict (destroyedIn p.world) ending = some (remark, fault)) :
    closing? filter p = some (shownRemark filter remark, fault) := by
  simp only [closing?, hstatus, hverdict]
  rfl

/-- The outcome follows from the remark on the end of the update and its fault, and from records
that end with that remark. -/
theorem exists_closesWith (filter : Log.Filter) (complaints : String) (interrupted : Bool)
    (hstatus : p.status = .ended ending)
    (hverdict : verdict (destroyedIn p.world) ending = some (remark, fault)) :
    ∃ records, ClosesWith filter remark.record records ∧
      conclude s filter complaints p interrupted =
        some (.ofEnd fault (if interrupted then settleOrder records else records) complaints) := by
  refine ⟨opening s filter ++ (shownNotes s filter p).map Prod.snd ++
    (if interrupted then shownRemark filter .interrupted else []) ++ shownRemark filter remark,
    ⟨_, ?_, rfl⟩, ?_⟩
  · refine List.forall_mem_append.2 ⟨List.forall_mem_append.2 ⟨?_, ?_⟩, ?_⟩
    · intro r hr
      rw [mem_shownRemark hr]
      simp [tellsEnd, Remark.record]
    · intro r hr
      exact tellsEnd_of_mem_shownNotes hr
    · intro r hr
      split at hr
      · rw [mem_shownRemark hr]
        decide
      · exact absurd hr List.not_mem_nil
  · rw [conclude, closing?_eq hstatus hverdict]
    rfl

end Outcomes

end Rollout.Simulation
