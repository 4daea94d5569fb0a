import Rollout.Proofs.Conservation

/-!
# Ids as addresses

What is said of healths, and what is destroyed, names an instance by its id only. `Addressed` is
what makes this enough, and a history keeps it where no member has the id of a replacement in the
beginning: the serial number is never compared with the ids that are there
(`not_addressed_of_taken`).
-/

namespace Rollout.Group

variable {g : Group}

/-- An id is enough to tell a member from all the others. -/
structure Addressed (g : Group) : Prop where
  nodup : (g.members.map Instance.id).Nodup
  health_setHealth : ∀ i ∈ g.members, ∀ j ∈ g.members, j ≠ i → ∀ health,
    (g.setHealth i.id health).health i.id = health ∧
      (g.setHealth i.id health).health j.id = g.health j.id
  members_destroy : ∀ i ∈ g.members, ∀ reason, ∃ before after,
    g.members = before ++ i :: after ∧
      (g.destroy i.id reason).1.members = before ++ after ++ g.successors i

theorem addressed_of_nodup (h : (g.members.map Instance.id).Nodup) : g.Addressed := by
  have hinj : ∀ i ∈ g.members, ∀ j ∈ g.members, j.id = i.id → j = i :=
    fun i hi j hj hid => List.inj_on_of_nodup_map h hj hi hid
  refine ⟨h, ?_, ?_⟩
  · intro i hi j hj hne health
    have hids : j.id ≠ i.id := fun hid => hne (hinj i hi j hj hid)
    simp [Group.health, setHealth, Dictionary.get?_insert, hids]
  · intro i hi reason
    rcases Group.members_destroy g i.id reason with
      ⟨hnone, -⟩ | ⟨before, removed, after, hg, hid, -, heq⟩
    · exact absurd rfl (hnone i hi)
    · obtain rfl : removed = i := hinj i hi removed (by simp [hg]) hid
      exact ⟨before, after, hg, heq⟩

/-- Where no member has the id of a replacement in the beginning, the ids stay different. -/
theorem addressed_performAll (members : List Instance) (replacement : Option Revision)
    (health : Health) (ops : List Op) (hnodup : (members.map Instance.id).Nodup)
    (hnumbered : replacement.isSome = true → ∀ n, numberedId n ∉ members.map Instance.id)
    (hops : ops.countP Op.isDestroy < UInt64.size) :
    ((ofMembers members replacement health).performAll ops).Addressed := by
  have hlog := length_destroyed_performAll_le (ofMembers members replacement health) ops
  have hreplacement := replacement_performAll (ofMembers members replacement health) ops
  have haccounted := accounted_performAll members replacement health ops
  generalize (ofMembers members replacement health).performAll ops = g at *
  simp only [ofMembers, List.length_nil] at hlog hreplacement
  obtain ⟨⟨-, hsub⟩, -⟩ := haccounted (by omega)
  apply addressed_of_nodup
  refine List.Nodup.sublist hsub (List.nodup_append'.2 ⟨hnodup, nodup_numberedIds _, ?_⟩)
  intro id hid hmade
  obtain ⟨n, hn, rfl⟩ := List.mem_map.1 hmade
  cases hsome : replacement with
  | none => simp [replaced, hreplacement, hsome] at hn
  | some revision => exact hnumbered (by simp [hsome]) n hid

theorem prefix_numberedId (n : Nat) :
    "replacement-".toList <+: (numberedId n).toList :=
  ⟨Text.paddedDecimal 4 n, by simp [numberedId]⟩

/-- The replacement of the first one is destroyed as well, and the group is listed in vain. -/
theorem addressed_performAll_renewed :
    let members := ["a", "b"].map Instance.ofId
    let ops : List Op := [.change (.destroy "a" .manual), .change (.setFailing true), .list,
      .change (.destroy "replacement-0000" .manual)]
    let g := (ofMembers members (some "r2") .healthy).performAll ops
    (members.map Instance.id).Nodup ∧ ops.countP Op.isDestroy < UInt64.size ∧ g.Addressed ∧
      g.members.map Instance.id = ["b", "replacement-0001"] := by
  intro members ops g
  have hnodup : (members.map Instance.id).Nodup := by decide
  have hops : ops.countP Op.isDestroy < UInt64.size := by decide
  have hplain : ∀ id ∈ members.map Instance.id, ¬"replacement-".toList <+: id.toList := by decide
  have hnumbered : ∀ n, numberedId n ∉ members.map Instance.id :=
    fun n hn => hplain _ hn (prefix_numberedId n)
  exact ⟨hnodup, hops, addressed_performAll members _ _ ops hnodup (fun _ => hnumbered) hops,
    by decide⟩

/-- A member has the id of the first replacement already, so that two have it after a destroy. -/
theorem not_addressed_of_taken :
    let members := ["replacement-0000", "a"].map Instance.ofId
    let g := (ofMembers members (some "r2") .healthy).performAll [.change (.destroy "a" .manual)]
    (members.map Instance.id).Nodup ∧
      g.members.map Instance.id = ["replacement-0000", "replacement-0000"] ∧ ¬g.Addressed := by
  intro members g
  have hids : g.members.map Instance.id = ["replacement-0000", "replacement-0000"] := by decide
  refine ⟨by decide, hids, ?_⟩
  intro h
  have hnodup := h.nodup
  rw [hids] at hnodup
  exact absurd hnodup (by decide)

end Rollout.Group
