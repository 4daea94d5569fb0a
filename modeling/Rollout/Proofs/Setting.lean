import Rollout.Proofs.Conservation
import Rollout.Proofs.Replacement
import Rollout.Simulation.Program

/-!
# What is simulated

The simulated group has one instance in each slot, all of one revision and healthy. So the number
of instances to replace follows from the two revisions and from whether one slot is protected.
-/

namespace Rollout

open Update Rehearsal

theorem Text.decimal_inj {m n : Nat} (h : decimal m = decimal n) : m = n :=
  @paddedDecimal_inj 0 m n (by simpa [paddedDecimal] using h)

namespace Simulation

namespace Config

def slotName (n : Nat) : String := "slot-" ++ String.ofList (Text.decimal n)

theorem slotName_inj {m n : Nat} (h : slotName m = slotName n) : m = n := by
  have hchars := congrArg String.toList h
  simp only [slotName, String.toList_append, String.toList_ofList] at hchars
  exact Text.decimal_inj (List.append_cancel_left hchars)

theorem id_firstInstance_inj {r : Revision} {m n : Nat}
    (h : (firstInstance r m).id = (firstInstance r n).id) : m = n := by
  have hchars : ("inst-" ++ String.ofList (Text.paddedDecimal 3 m)).toList =
      ("inst-" ++ String.ofList (Text.paddedDecimal 3 n)).toList := congrArg String.toList h
  simp only [String.toList_append, String.toList_ofList] at hchars
  exact Text.paddedDecimal_inj (List.append_cancel_left hchars)

theorem id_firstInstance_ne (r : Revision) (n : Nat) (serial : UInt64) :
    (firstInstance r n).id ≠ Group.replacementId serial := by
  intro h
  have hchars : ("inst-" ++ String.ofList (Text.paddedDecimal 3 n)).toList =
      (Group.replacementId serial).toList := congrArg String.toList h
  simp only [Group.replacementId, String.toList_append] at hchars
  have hfirst := congrArg List.head? hchars
  simp at hfirst

theorem wants_firstInstance (s : Settings) (r : Revision) (n : Nat) :
    s.wants (firstInstance r n) =
      (r == s.revision || (s.policy == .never && s.selfSlot == some (slotName n))) := by
  have hkeys : Tags.slotKey ≠ Tags.revisionKey := by decide
  have hrevision : (firstInstance r n).revision? = some r := by
    simp [firstInstance, Instance.withRevision, Instance.withTag, Instance.revision?,
      Tags.revision?, Dictionary.get?_insert]
  have htagged : Tags.slot? (firstInstance r n).tags = none := by
    simp [firstInstance, Instance.withRevision, Instance.withTag, Instance.withSlot,
      Instance.ofId, Tags.slot?, Dictionary.get?_insert, hkeys]
  have hslot : (firstInstance r n).slot = some (slotName n) := rfl
  have hself : s.isSelf (firstInstance r n) = (s.selfSlot == some (slotName n)) := by
    unfold Settings.isSelf
    cases s.selfSlot with
    | none => rfl
    | some slot => simp [hslot, htagged, eq_comm]
  simp [Settings.wants, Settings.protects, Instance.hasRevision, hrevision, hself]

end Config

namespace Setting

variable {s : Setting}

def plan (s : Setting) : Plan := s.config.plan s.options

def group (s : Setting) : Group := s.config.group s.options

/-- How many instances a simulated update has to replace: none if both images have the same
revision, else all but the one in the slot of the controller if that is protected. -/
def toReplace (s : Setting) : Nat :=
  if Revision.ofSpec (.obj [("image", .str s.config.sourceImage)]) =
      Revision.ofSpec (.obj [("image", .str s.config.targetImage)]) then 0
  else if s.options.policy = .never ∧
      ∃ n < s.config.size, s.options.selfSlot = some (Config.slotName n) then s.config.size - 1
  else s.config.size

theorem countP_range_ne {size n : Nat} (h : n < size) :
    (List.range size).countP (fun i => decide (i ≠ n)) = size - 1 := by
  have hone : (List.range size).countP (fun i => decide (i = n)) = 1 :=
    List.count_eq_one_of_mem List.nodup_range (List.mem_range.2 h)
  have hall : size = 1 + (List.range size).countP fun i => decide (i ≠ n) := by
    have hsplit := List.length_eq_countP_add_countP (fun i => decide (i = n)) (l := List.range size)
    rw [hone, List.length_range] at hsplit
    simpa using hsplit
  omega

theorem length_unwanted (s : Setting) :
    (s.plan.target.unwanted s.group.members).length = s.toReplace := by
  have hwants (n : Nat) := Config.wants_firstInstance s.plan.target s.plan.source.revision n
  have hcount : (s.plan.target.unwanted s.group.members).length =
      (List.range s.config.size).countP fun n =>
        !s.plan.target.wants (Config.firstInstance s.plan.source.revision n) := by
    rw [Settings.unwanted, ← List.countP_eq_length_filter, group, Config.group, List.countP_map]
    rfl
  have hrevisions :
      s.plan.source.revision = Revision.ofSpec (.obj [("image", .str s.config.sourceImage)]) ∧
      s.plan.target.revision = Revision.ofSpec (.obj [("image", .str s.config.targetImage)]) :=
    ⟨rfl, rfl⟩
  rw [hcount, toReplace, ← hrevisions.1, ← hrevisions.2]
  simp only [hwants]
  by_cases hsame : s.plan.source.revision = s.plan.target.revision
  · simp [hsame]
  · have hother : (s.plan.source.revision == s.plan.target.revision) = false := by simpa using hsame
    simp only [if_neg hsame, hother, Bool.false_or]
    have hpolicy : s.plan.target.policy = s.options.policy := rfl
    have hself : s.plan.target.selfSlot = s.options.selfSlot := rfl
    rw [hpolicy, hself]
    by_cases hown : s.options.policy = .never ∧
        ∃ n < s.config.size, s.options.selfSlot = some (Config.slotName n)
    · rw [if_pos hown]
      obtain ⟨hnever, n, hn, hslot⟩ := hown
      rw [← countP_range_ne hn]
      apply List.countP_congr
      intro i _
      have hiff : Config.slotName n = Config.slotName i ↔ i = n :=
        ⟨fun h => (Config.slotName_inj h).symm, fun h => h ▸ rfl⟩
      simp [hnever, hslot, hiff]
    · rw [if_neg hown]
      have hall : (List.range s.config.size).countP (fun n => !(s.options.policy == .never &&
          s.options.selfSlot == some (Config.slotName n))) = (List.range s.config.size).length := by
        apply List.countP_eq_length.2
        intro n hn
        by_contra h
        have hprotected : s.options.policy = .never ∧
            s.options.selfSlot = some (Config.slotName n) := by simpa using h
        exact hown ⟨hprotected.1, n, List.mem_range.1 hn, hprotected.2⟩
      rw [hall, List.length_range]

/-! ## The group at the beginning -/

theorem nodup_ids (s : Setting) : (s.group.members.map Instance.id).Nodup := by
  have hids : s.group.members.map Instance.id =
      (List.range s.config.size).map fun n =>
        (Config.firstInstance s.plan.source.revision n).id := by
    rw [group, Config.group, List.map_map]
    rfl
  rw [hids]
  exact List.nodup_range.map fun _ _ => Config.id_firstInstance_inj

theorem health_group (s : Setting) (id : String) : s.group.health id = .healthy := rfl

theorem calm (s : Setting) : Calm s.plan s.group where
  lineage := .of_nodup s.nodup_ids fun _ h => (Option.some.inj h).symm
  replacement := rfl
  listed := rfl
  healthy i _ := s.health_group i.id

theorem id_ne_replacementId {i : Instance} (hi : i ∈ s.group.members) :
    i.id ≠ Group.replacementId s.group.serial := by
  obtain ⟨n, -, rfl⟩ := List.mem_map.1 hi
  exact Config.id_firstInstance_ne _ _ _

theorem length_wanted (s : Setting) :
    (s.plan.target.wanted s.group.members).length + s.toReplace = s.plan.target.size := by
  have hsize : s.group.members.length = s.plan.target.size := by
    rw [group, Config.group, List.length_map, List.length_range]
    rfl
  rw [← length_unwanted, ← hsize]
  exact (List.length_eq_length_filter_add s.plan.target.wants).symm

theorem toReplace_le (s : Setting) : s.toReplace ≤ s.config.size := by
  unfold toReplace
  split
  · exact Nat.zero_le _
  · split
    · exact Nat.sub_le _ _
    · exact Nat.le_refl _

end Setting

end Simulation

end Rollout
