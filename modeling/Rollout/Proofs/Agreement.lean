import Rollout.Proofs.Lineage

/-!
# Groups that look the same to an update

Of an instance an update sees no more than its face: the id, the slot and the two tags with a
meaning. Two groups agree under some settings if their members have the same faces and those that
are to stay are equally healthy; how healthy the others are does not matter. Whatever is done to
both of two groups that agree, they agree afterwards (`Group.Agree.apply`), as the health of an
id that was once the same in both stays so.
-/

namespace Rollout

/-- What an update sees of an instance. -/
structure Face where
  id : String
  slot : Option String
  revision? : Option Revision
  /-- The slot among the tags. -/
  tagged? : Option String
  deriving DecidableEq, Repr

def Instance.face (i : Instance) : Face := ⟨i.id, i.slot, i.revision?, Tags.slot? i.tags⟩

namespace Face

variable {i j : Instance}

def fills (f : Face) : Option String → Bool
  | none => false
  | some slot => f.slot == some slot || f.tagged? == some slot

def isWanted (s : Settings) (f : Face) : Bool :=
  f.revision? == some s.revision || (s.policy == .never && f.fills s.selfSlot)

def precedes (own : Option String) (a b : Face) : Bool :=
  if a.fills own = b.fills own then decide (a.id ≤ b.id) else b.fills own

def replaced (f : Face) (revision : Revision) (serial : UInt64) : Face :=
  ⟨Group.replacementId serial, f.slot, some revision, f.tagged?⟩

theorem isSelf_eq (s : Settings) (i : Instance) : s.isSelf i = i.face.fills s.selfSlot := by
  unfold Settings.isSelf fills
  cases s.selfSlot <;> rfl

theorem wants_eq (s : Settings) (i : Instance) : s.wants i = i.face.isWanted s := by
  rw [Settings.wants, Settings.protects, isSelf_eq]
  rfl

theorem precedes_eq (s : Settings) (a b : Instance) :
    s.precedes a b = a.face.precedes s.selfSlot b.face := by
  rw [Settings.precedes, isSelf_eq, isSelf_eq]
  rfl

theorem map_wanted (s : Settings) (snapshot : List Instance) :
    (s.wanted snapshot).map Instance.face =
      (snapshot.map Instance.face).filter (Face.isWanted s) := by
  rw [List.filter_map, Settings.wanted, funext (wants_eq s)]
  rfl

theorem map_unwanted (s : Settings) (snapshot : List Instance) :
    (s.unwanted snapshot).map Instance.face =
      (snapshot.map Instance.face).filter fun f => !f.isWanted s := by
  rw [List.filter_map, Settings.unwanted, funext (wants_eq s)]
  rfl

theorem map_destroyOrder (s : Settings) (instances : List Instance) :
    (s.destroyOrder instances).map Instance.face =
      (instances.map Instance.face).mergeSort (Face.precedes s.selfSlot) :=
  List.map_mergeSort fun a _ b _ => precedes_eq s a b

theorem map_id {instances others : List Instance}
    (h : instances.map Instance.face = others.map Instance.face) :
    instances.map Instance.id = others.map Instance.id := by
  have hids := congrArg (List.map Face.id) h
  rwa [List.map_map, List.map_map] at hids

theorem face_replacementOf (removed : Instance) (revision : Revision) (serial : UInt64) :
    (Group.replacementOf removed revision serial).face = removed.face.replaced revision serial := by
  have hkeys : Tags.slotKey ≠ Tags.revisionKey := by decide
  have hslot : (Group.replacementOf removed revision serial).slot = removed.slot := by
    unfold Group.replacementOf
    split <;> rfl
  have htagged : Tags.slot? (Group.replacementOf removed revision serial).tags =
      Tags.slot? removed.tags := by
    unfold Group.replacementOf
    split
    · rename_i slot htag
      rw [htag]
      simp [Instance.withTag, Tags.slot?, Dictionary.get?_insert]
    · rename_i hnone
      rw [hnone]
      simp [Instance.ofId, Instance.withRevision, Instance.withTag, Tags.slot?,
        Dictionary.get?_insert, hkeys]
  rw [Instance.face, Group.id_replacementOf, Group.revision?_replacementOf, hslot, htagged]
  rfl

end Face

namespace Group

variable {s : Settings} {asked : List String} {g h : Group}

/-! ## What operations do to healths -/

theorem health_setHealth (g : Group) (id other : String) (health : Health) :
    (g.setHealth id health).health other = if other = id then health else g.health other := by
  simp only [Group.health, setHealth, Dictionary.get?_insert]
  split <;> rfl

theorem health_remove (g : Group) (id other : String) (reason : Reason) :
    (g.remove id reason).health other = if other = id then .healthy else g.health other := by
  simp only [Group.health, remove, Dictionary.get?_erase]
  split <;> rfl

theorem health_replace (g : Group) (removed : Instance) (revision : Revision) (other : String) :
    (g.replace removed revision).1.health other =
      if other = replacementId g.serial then g.replacementHealth else g.health other := by
  simp only [Group.health, replace, Dictionary.get?_insert, id_replacementOf]
  split <;> rfl

theorem health_destroy {revision : Revision} {i : Instance} (hi : i ∈ g.members)
    (hr : g.replacement = some revision) (reason : Reason) (other : String) :
    (g.destroy i.id reason).1.health other =
      if other = replacementId g.serial then g.replacementHealth
      else if other = i.id then .healthy else g.health other := by
  rcases destroy_cases g i.id reason with ⟨hnone, -⟩ | ⟨_, removed, _, -, -, -, -, heq⟩
  · exact absurd rfl (hnone i hi)
  · rw [heq, hr]
    simp only [health_replace, health_remove]
    rfl

theorem health_foldl_insert (ids : List String) (health : Health) :
    ∀ (g : Group) (other : String),
      Group.health { g with healths := ids.foldl (fun d id => d.insert id health) g.healths } other =
        if other ∈ ids then health else g.health other := by
  induction ids with
  | nil => simp
  | cons id ids ih =>
      intro g other
      rw [List.foldl_cons]
      refine (ih (g.setHealth id health) other).trans ?_
      rw [health_setHealth]
      by_cases hid : other = id <;> simp [hid]

theorem health_setHealthOf (g : Group) (revision : Revision) (health : Health) (other : String) :
    (g.setHealthOf revision health).health other =
      if other ∈ (g.members.filter (Instance.hasRevision revision)).map Instance.id then health
      else g.health other :=
  health_foldl_insert _ health g other

/-! ## Agreement -/

/-- An update with some settings as its target does not tell two groups apart. `asked` are ids of
which it will ask the health all the same, whether or not they are still those of members. -/
structure Agree (s : Settings) (asked : List String) (g h : Group) : Prop where
  faces : g.members.map Instance.face = h.members.map Instance.face
  healths : ∀ i ∈ s.wanted g.members, g.health i.id = h.health i.id
  asked : ∀ id ∈ asked, g.health id = h.health id
  destroyed : g.destroyed = h.destroyed
  replacement : g.replacement = h.replacement
  replacementHealth : g.replacementHealth = h.replacementHealth
  serial : g.serial = h.serial
  failing : g.failing = h.failing

namespace Agree

theorem setHealth (hgh : Agree s asked g h) (id : String) (health : Health) :
    Agree s asked (g.setHealth id health) (h.setHealth id health) := by
  have hkeep (other : String) (heq : g.health other = h.health other) :
      (g.setHealth id health).health other = (h.setHealth id health).health other := by
    rw [health_setHealth, health_setHealth, heq]
  exact { hgh with
    healths := fun i hi => hkeep i.id (hgh.healths i hi)
    asked := fun other hother => hkeep other (hgh.asked other hother) }

theorem setHealthOf (hgh : Agree s asked g h) (revision : Revision) (health : Health) :
    Agree s asked (g.setHealthOf revision health) (h.setHealthOf revision health) := by
  have hids : (g.members.filter (Instance.hasRevision revision)).map Instance.id =
      (h.members.filter (Instance.hasRevision revision)).map Instance.id := by
    apply Face.map_id
    have hfilter (members : List Instance) :
        (members.filter (Instance.hasRevision revision)).map Instance.face =
          (members.map Instance.face).filter fun f => f.revision? == some revision := by
      rw [List.filter_map]
      rfl
    rw [hfilter, hfilter, hgh.faces]
  have hkeep (other : String) (heq : g.health other = h.health other) :
      (g.setHealthOf revision health).health other =
        (h.setHealthOf revision health).health other := by
    rw [health_setHealthOf, health_setHealthOf, hids, heq]
  refine { hgh with
    healths := fun i hi => hkeep i.id (hgh.healths i hi)
    asked := fun other hother => hkeep other (hgh.asked other hother)
    replacementHealth := ?_ }
  simp only [Group.setHealthOf, hgh.replacement, hgh.replacementHealth]

theorem remove (hgh : Agree s asked g h) (id : String) (reason : Reason) :
    Agree s asked (g.remove id reason) (h.remove id reason) := by
  have hkeep (other : String) (heq : g.health other = h.health other) :
      (g.remove id reason).health other = (h.remove id reason).health other := by
    rw [health_remove, health_remove, heq]
  have hfaces (k : Group) : (k.remove id reason).members.map Instance.face =
      (k.members.map Instance.face).eraseP fun f => f.id == id := by
    rw [List.eraseP_map]
    rfl
  refine { hgh with
    faces := by rw [hfaces, hfaces, hgh.faces]
    healths := ?_
    asked := fun other hother => hkeep other (hgh.asked other hother)
    destroyed := congrArg (· ++ [(id, reason)]) hgh.destroyed }
  intro i hi
  obtain ⟨hmem, hwants⟩ := List.mem_filter.1 hi
  exact hkeep i.id (hgh.healths i (List.mem_filter.2 ⟨List.mem_of_mem_eraseP hmem, hwants⟩))

theorem replace (hgh : Agree s asked g h) {removed other : Instance}
    (hface : removed.face = other.face) (revision : Revision) :
    Agree s asked (g.replace removed revision).1 (h.replace other revision).1 := by
  have hkeep (id : String) (heq : g.health id = h.health id) :
      (g.replace removed revision).1.health id = (h.replace other revision).1.health id := by
    rw [health_replace, health_replace, hgh.serial, hgh.replacementHealth, heq]
  have hfaces (k : Group) (i : Instance) : (k.replace i revision).1.members.map Instance.face =
      k.members.map Instance.face ++ [i.face.replaced revision k.serial] := by
    rw [← Face.face_replacementOf]
    exact List.map_append
  refine { hgh with
    faces := by rw [hfaces, hfaces, hgh.faces, hface, hgh.serial]
    healths := ?_
    asked := fun id hid => hkeep id (hgh.asked id hid)
    serial := congrArg (· + 1) hgh.serial }
  intro i hi
  obtain ⟨hmem, hwants⟩ := List.mem_filter.1 hi
  rcases List.mem_append.1 hmem with hold | hfresh
  · exact hkeep i.id (hgh.healths i (List.mem_filter.2 ⟨hold, hwants⟩))
  · -- A member that shares the id of the replacement shares its health as well.
    obtain rfl := List.mem_singleton.1 hfresh
    rw [id_replacementOf, health_replace, health_replace, hgh.serial, if_pos rfl, if_pos rfl,
      hgh.replacementHealth]

theorem destroy (hgh : Agree s asked g h) (id : String) (reason : Reason) :
    Agree s asked (g.destroy id reason).1 (h.destroy id reason).1 := by
  have hfind (members : List Instance) :
      (members.find? fun i => i.id == id).map Instance.face =
        (members.map Instance.face).find? fun f => f.id == id := by
    rw [List.find?_map]
    rfl
  have hfound := (hfind g.members).trans (hgh.faces ▸ (hfind h.members).symm)
  unfold Group.destroy
  cases hg : g.members.find? fun i => i.id == id with
  | none =>
      rw [hg] at hfound
      rw [Option.map_eq_none_iff.1 hfound.symm]
      exact hgh
  | some removed =>
      rw [hg] at hfound
      obtain ⟨other, hother, hface⟩ := Option.map_eq_some_iff.1 hfound.symm
      rw [hother]
      simp only [hgh.replacement]
      cases h.replacement with
      | none => exact hgh.remove id reason
      | some revision => exact (hgh.remove id reason).replace hface.symm revision

/-- Whatever is done to both of two groups that agree, they agree afterwards. -/
theorem apply (hgh : Agree s asked g h) (c : Change) :
    Agree s asked (g.apply c).1 (h.apply c).1 := by
  cases c with
  | setHealth id health => exact hgh.setHealth id health
  | setHealthOf revision health => exact hgh.setHealthOf revision health
  | setFailing failing => exact { hgh with failing := rfl }
  | destroy id reason => exact hgh.destroy id reason

end Agree

end Group

end Rollout
