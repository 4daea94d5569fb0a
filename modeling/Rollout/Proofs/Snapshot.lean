import Rollout.Proofs.ByteOrder
import Rollout.Proofs.DestroyOrder

/-!
# The order of a snapshot

A snapshot is parted into the instances that are to stay and those that are destroyed, the latter
in ascending order of whether they are the controller's own and of the bytes of their ids. In which
order the backend reports the instances matters only among instances of one rank: any other order
gives the same ranks (`map_rank_destroyOrder`), and where ids are different the same instances.
-/

namespace Rollout.Settings

variable {s target source : Settings} {snapshot other : List Instance} {a b i : Instance}

def byteRank (s : Settings) (i : Instance) : Bool ×ₗ List Nat :=
  toLex (s.isSelf i, Text.bytes i.id)

theorem byteRank_le_byteRank_iff : s.byteRank a ≤ s.byteRank b ↔ s.rank a ≤ s.rank b := by
  unfold byteRank rank
  rw [Prod.Lex.toLex_le_toLex, Prod.Lex.toLex_le_toLex, Text.bytes_le_bytes_iff]

/-- An instance is to stay: it has the right revision, or is the controller's own and must not be
replaced. -/
def Keeps (s : Settings) (i : Instance) : Prop :=
  i.tags.get? Tags.revisionKey = some s.revision ∨ s.policy = .never ∧ s.isSelf i = true

theorem wants_eq_true_iff : s.wants i = true ↔ s.Keeps i := by
  simp [wants, protects, Keeps, Instance.hasRevision, Instance.revision?, Tags.revision?]

theorem wanted_append_perm (target source : Settings) (snapshot : List Instance) :
    (target.wanted snapshot ++ source.destroyOrder (target.unwanted snapshot)).Perm snapshot :=
  ((destroyOrder_perm source _).append_left _).trans (List.filter_append_perm _ _)

theorem unwanted_perm (h : other.Perm snapshot) :
    (s.unwanted other).Perm (s.unwanted snapshot) :=
  h.filter _

/-- Instances in another order are destroyed in the same order of their ranks. -/
theorem map_rank_destroyOrder (h : other.Perm snapshot) :
    (s.destroyOrder other).map s.rank = (s.destroyOrder snapshot).map s.rank := by
  have hsorted (instances : List Instance) :
      ((s.destroyOrder instances).map s.rank).Pairwise (· ≤ ·) :=
    List.pairwise_map.2 (pairwise_destroyOrder s instances)
  have hperm : (s.destroyOrder other).Perm (s.destroyOrder snapshot) :=
    ((destroyOrder_perm s other).trans h).trans (destroyOrder_perm s snapshot).symm
  refine (hperm.map s.rank).eq_of_pairwise ?_ (hsorted other) (hsorted snapshot)
  intro k l _ _ hkl hlk
  exact le_antisymm hkl hlk

/-- How a snapshot is parted: what stays under the settings `target`, and then the rest, in the
order of destroys under the settings `source`. -/
structure Parted (target source : Settings) (snapshot wanted rest : List Instance) : Prop where
  perm : (wanted ++ rest).Perm snapshot
  wanted_sublist : wanted.Sublist snapshot
  mem_wanted_iff : ∀ i, i ∈ wanted ↔ i ∈ snapshot ∧ target.Keeps i
  not_keeps : ∀ i ∈ rest, ¬target.Keeps i
  ascending : rest.Pairwise fun a b => source.byteRank a ≤ source.byteRank b
  stable : ∀ k, (rest.filter fun i => source.rank i = k).Sublist snapshot

theorem parted (target source : Settings) (snapshot : List Instance) :
    Parted target source snapshot (target.wanted snapshot)
      (source.destroyOrder (target.unwanted snapshot)) where
  perm := wanted_append_perm target source snapshot
  wanted_sublist := List.filter_sublist
  mem_wanted_iff i := by rw [wanted, List.mem_filter, wants_eq_true_iff]
  not_keeps i hi := by
    have hout := (mem_unwanted.1 ((destroyOrder_perm source _).mem_iff.1 hi)).2
    rw [← wants_eq_true_iff, hout]
    exact Bool.false_ne_true
  ascending := (pairwise_destroyOrder source _).imp byteRank_le_byteRank_iff.2
  stable k := by
    rw [filter_destroyOrder]
    exact List.filter_sublist.trans List.filter_sublist

/-- Of a snapshot in any order the same ranks are destroyed, and where the ids are different the
same instances. -/
theorem parted_perm_invariant (target source : Settings) (snapshot : List Instance) :
    Parted target source snapshot (target.wanted snapshot)
        (source.destroyOrder (target.unwanted snapshot)) ∧
      ∀ other, other.Perm snapshot →
        (source.destroyOrder (target.unwanted other)).map source.rank =
            (source.destroyOrder (target.unwanted snapshot)).map source.rank ∧
          ((snapshot.map Instance.id).Nodup →
            source.destroyOrder (target.unwanted other) =
              source.destroyOrder (target.unwanted snapshot)) := by
  refine ⟨parted target source snapshot, fun other h => ⟨?_, fun hids => ?_⟩⟩
  · exact map_rank_destroyOrder (unwanted_perm h)
  · have hother : ((target.unwanted other).map Instance.id).Nodup :=
      ((h.map Instance.id).nodup_iff.2 hids).sublist (List.filter_sublist.map _)
    have hsorted := pairwise_destroyOrder source (target.unwanted snapshot)
    apply destroyOrder_eq_of_perm hother hsorted
    exact (destroyOrder_perm source _).trans (unwanted_perm h.symm)

end Rollout.Settings
