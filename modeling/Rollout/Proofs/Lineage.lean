import Rollout.Group
import Rollout.Proofs.DestroyOrder

/-!
# Members and their replacements

What a change does to the members of a group. `Group.members_destroy` says it for a destroy in
full. The ids of replacements may be taken already; but as replacements go to the end of the
group, a destroy by id still finds a member that is out of date before any replacement of this id.
`Group.Lineage` is the invariant, and counting the members that are to stay its use.
-/

namespace Rollout.Group

def successors (g : Group) (removed : Instance) : List Instance :=
  match g.replacement with
  | none => []
  | some revision => [replacementOf removed revision g.serial]

theorem eraseP_of_find? {members : List Instance} {id : String} {removed : Instance}
    (h : members.find? (fun i => i.id == id) = some removed) :
    ∃ before after, members = before ++ removed :: after ∧ removed.id = id ∧
      (∀ i ∈ before, i.id ≠ id) ∧ members.eraseP (fun i => i.id == id) = before ++ after := by
  obtain ⟨hid, before, after, rfl, hbefore⟩ := List.find?_eq_some_iff_append.1 h
  have hne : ∀ i ∈ before, i.id ≠ id := by simpa using hbefore
  refine ⟨before, after, rfl, by simpa using hid, hne, ?_⟩
  have herase : (removed :: after).eraseP (fun i => i.id == id) = after :=
    List.eraseP_cons_of_pos hid
  rw [List.eraseP_append_right _ (by simpa using hne), herase]

/-- What a destroy does: nothing where no member has the id; else it removes the first member that
has it, and where a replacement is set, puts one in its place. -/
theorem destroy_cases (g : Group) (id : String) (reason : Reason) :
    ((∀ i ∈ g.members, i.id ≠ id) ∧ (g.destroy id reason).1 = g) ∨
      ∃ before removed after, g.members = before ++ removed :: after ∧ removed.id = id ∧
        (∀ i ∈ before, i.id ≠ id) ∧ (g.remove id reason).members = before ++ after ∧
        (g.destroy id reason).1 =
          match g.replacement with
          | none => g.remove id reason
          | some revision => ((g.remove id reason).replace removed revision).1 := by
  cases hfind : g.members.find? fun i => i.id == id with
  | none =>
      refine .inl ⟨by simpa using hfind, ?_⟩
      simp [destroy, hfind]
  | some removed =>
      obtain ⟨before, after, hmembers, hid, hbefore, herase⟩ := eraseP_of_find? hfind
      refine .inr ⟨before, removed, after, hmembers, hid, hbefore, herase, ?_⟩
      cases hreplacement : g.replacement <;> simp [destroy, hfind, hreplacement]

/-- A destroy removes the first member with an id, and puts what comes in its place to the end.
Where no member has the id, it changes nothing. -/
theorem members_destroy (g : Group) (id : String) (reason : Reason) :
    ((∀ i ∈ g.members, i.id ≠ id) ∧ (g.destroy id reason).1 = g) ∨
      ∃ before removed after, g.members = before ++ removed :: after ∧ removed.id = id ∧
        (∀ i ∈ before, i.id ≠ id) ∧
        (g.destroy id reason).1.members = before ++ after ++ g.successors removed := by
  rcases destroy_cases g id reason with
    hnone | ⟨before, removed, after, hmembers, hid, hbefore, hrest, heq⟩
  · exact .inl hnone
  · refine .inr ⟨before, removed, after, hmembers, hid, hbefore, ?_⟩
    rw [heq, ← hrest]
    cases hreplacement : g.replacement <;> simp [successors, hreplacement, replace, remove]

theorem destroyed_destroy {g : Group} {i : Instance} (hi : i ∈ g.members) (reason : Reason) :
    (g.destroy i.id reason).1.destroyed = g.destroyed ++ [(i.id, reason)] := by
  unfold destroy
  split
  · rename_i hnone
    have hne := List.find?_eq_none.1 hnone i hi
    simp at hne
  · split
    · rfl
    · rfl

@[simp] theorem replacement_destroy (g : Group) (id : String) (reason : Reason) :
    (g.destroy id reason).1.replacement = g.replacement := by
  unfold destroy
  split
  · rfl
  · split
    · simp [remove]
    · simp [replace, remove]

@[simp] theorem failing_destroy (g : Group) (id : String) (reason : Reason) :
    (g.destroy id reason).1.failing = g.failing := by
  unfold destroy
  split
  · rfl
  · split <;> rfl

@[simp] theorem listCalls_destroy (g : Group) (id : String) (reason : Reason) :
    (g.destroy id reason).1.listCalls = g.listCalls := by
  unfold destroy
  split
  · rfl
  · split <;> rfl

@[simp] theorem replacement_apply (g : Group) (c : Change) :
    (g.apply c).1.replacement = g.replacement := by
  cases c with
  | destroy id reason => exact replacement_destroy g id reason
  | _ => rfl

/-- A change that is no destroy. -/
def Change.Spares (c : Change) : Prop := ∀ id reason, c ≠ .destroy id reason

theorem Change.Spares.members_apply {c : Change} (h : c.Spares) (g : Group) :
    (g.apply c).1.members = g.members := by
  cases c with
  | destroy id reason => exact absurd rfl (h id reason)
  | _ => rfl

theorem Change.Spares.destroyed_apply {c : Change} (h : c.Spares) (g : Group) :
    (g.apply c).1.destroyed = g.destroyed := by
  cases c with
  | destroy id reason => exact absurd rfl (h id reason)
  | _ => rfl

section Replacement

variable (removed : Instance) (revision : Revision) (serial : UInt64)

@[simp] theorem id_replacementOf :
    (replacementOf removed revision serial).id = replacementId serial := by
  unfold replacementOf
  split <;> rfl

@[simp] theorem revision?_replacementOf :
    (replacementOf removed revision serial).revision? = some revision := by
  have hkeys : Tags.revisionKey ≠ Tags.slotKey := by decide
  unfold replacementOf
  split <;> simp [Instance.revision?, Tags.revision?, Instance.withTag, Instance.withRevision,
    Dictionary.get?_insert, hkeys]

theorem hasRevision_replacementOf :
    (replacementOf removed revision serial).hasRevision revision = true := by
  simp [Instance.hasRevision]

end Replacement

/-- Replacements have a revision, and so has each member with the id of an earlier one. -/
structure Lineage (revision : Revision) (g : Group) : Prop where
  replacement_eq : ∀ r, g.replacement = some r → r = revision
  ids : g.members.Pairwise fun a b => a.id = b.id → b.hasRevision revision = true

theorem Lineage.of_nodup {g : Group} {revision : Revision}
    (hids : (g.members.map Instance.id).Nodup)
    (hr : ∀ r, g.replacement = some r → r = revision) : Lineage revision g where
  replacement_eq := hr
  ids := by
    have hne := List.pairwise_map.1 hids
    exact hne.imp fun hab heq => absurd heq hab

theorem hasRevision_of_mem_successors {g : Group} {revision : Revision} (h : Lineage revision g)
    {removed i : Instance} (hi : i ∈ g.successors removed) : i.hasRevision revision = true := by
  unfold successors at hi
  split at hi
  · simp at hi
  · rename_i r hr
    obtain rfl := h.replacement_eq r hr
    obtain rfl := List.mem_singleton.1 hi
    exact hasRevision_replacementOf removed r g.serial

theorem Lineage.destroy {g : Group} {revision : Revision} (h : Lineage revision g) (id : String)
    (reason : Reason) : Lineage revision (g.destroy id reason).1 where
  replacement_eq := by
    rw [replacement_destroy]
    exact h.replacement_eq
  ids := by
    rcases members_destroy g id reason with ⟨-, heq⟩ | ⟨before, removed, after, hg, -, -, heq⟩
    · rw [heq]
      exact h.ids
    · rw [heq]
      have hsub : (before ++ after).Sublist g.members := by
        rw [hg]
        exact (List.sublist_cons_self removed after).append_left before
      apply List.pairwise_append.2
      refine ⟨h.ids.sublist hsub, ?_, ?_⟩
      · exact List.pairwise_of_forall_mem_list fun _ _ b hb _ =>
          hasRevision_of_mem_successors h hb
      · intro _ _ b hb _
        exact hasRevision_of_mem_successors h hb

theorem Lineage.apply {g : Group} {revision : Revision} (h : Lineage revision g) (c : Change) :
    Lineage revision (g.apply c).1 := by
  cases c with
  | destroy id reason => exact h.destroy id reason
  | setHealth | setHealthOf | setFailing => exact ⟨h.replacement_eq, h.ids⟩

/-! ## Members that are to stay -/

variable {g : Group} {s : Settings}

theorem wants_of_hasRevision {i : Instance} (h : i.hasRevision s.revision = true) :
    s.wants i = true := by
  simp [Settings.wants, h]

theorem successors_eq (hr : g.replacement = some s.revision) (removed : Instance) :
    ∃ fresh, g.successors removed = [fresh] ∧ s.wants fresh = true := by
  refine ⟨replacementOf removed s.revision g.serial, by simp [successors, hr], ?_⟩
  exact wants_of_hasRevision (hasRevision_replacementOf removed s.revision g.serial)

theorem length_wanted_le_destroy (hr : g.replacement = some s.revision) (id : String)
    (reason : Reason) :
    (s.wanted g.members).length ≤ (s.wanted (g.destroy id reason).1.members).length := by
  rcases members_destroy g id reason with ⟨-, heq⟩ | ⟨before, removed, after, hg, -, -, heq⟩
  · rw [heq]
  · obtain ⟨fresh, hfresh, hwants⟩ := successors_eq hr removed
    rw [heq, hg, hfresh]
    cases hremoved : s.wants removed with
    | false => simp [Settings.wanted, hwants, hremoved]
    | true =>
        simp only [Settings.wanted, List.filter_append, List.filter_cons, hwants, hremoved,
          List.length_append, List.length_cons, if_true]
        omega

theorem length_wanted_destroy_le (hr : g.replacement = some s.revision) (id : String)
    (reason : Reason) :
    (s.wanted (g.destroy id reason).1.members).length ≤ (s.wanted g.members).length + 1 := by
  rcases members_destroy g id reason with ⟨-, heq⟩ | ⟨before, removed, after, hg, -, -, heq⟩
  · rw [heq]
    exact Nat.le_succ _
  · obtain ⟨fresh, hfresh, hwants⟩ := successors_eq hr removed
    rw [heq, hg, hfresh]
    simp only [Settings.wanted, List.filter_append, List.filter_cons, hwants, List.length_append,
      if_true]
    split <;> simp

theorem length_members_destroy {revision : Revision} (hr : g.replacement = some revision)
    (id : String) (reason : Reason) :
    (g.destroy id reason).1.members.length = g.members.length := by
  rcases members_destroy g id reason with ⟨-, heq⟩ | ⟨before, removed, after, hg, -, -, heq⟩
  · rw [heq]
  · have hone : (g.successors removed).length = 1 := by simp [successors, hr]
    rw [heq, hg]
    simp only [List.length_append, List.length_cons, hone]
    omega

/-- A member that is to be replaced is found by its id. -/
theorem members_destroy_of_mem_unwanted (hl : Lineage s.revision g) {victim : Instance}
    (hvictim : victim ∈ s.unwanted g.members) (reason : Reason) :
    ∃ before after, g.members = before ++ victim :: after ∧
      (g.destroy victim.id reason).1.members = before ++ after ++ g.successors victim := by
  obtain ⟨hmem, hout⟩ := Settings.mem_unwanted.1 hvictim
  rcases members_destroy g victim.id reason with
    ⟨hnone, -⟩ | ⟨before, removed, after, hg, hid, hbefore, heq⟩
  · exact absurd rfl (hnone victim hmem)
  · have hremoved : removed = victim := by
      rw [hg] at hmem
      rcases List.mem_append.1 hmem with hearly | hlate
      · exact absurd rfl (hbefore victim hearly)
      · rcases List.mem_cons.1 hlate with rfl | hlate
        · rfl
        · -- A later member with this id would be a replacement, and so be one to stay.
          have hids := hl.ids
          rw [hg] at hids
          have hrevision := (List.pairwise_cons.1 (List.pairwise_append.1 hids).2.1).1 _ hlate hid
          rw [wants_of_hasRevision hrevision] at hout
          exact absurd hout (by decide)
    subst hremoved
    exact ⟨before, after, hg, heq⟩

theorem Lineage.nodup_unwanted (hl : Lineage s.revision g) :
    ((s.unwanted g.members).map Instance.id).Nodup := by
  have hunwanted := hl.ids.filter fun i => !s.wants i
  refine List.pairwise_map.2 (hunwanted.imp_of_mem ?_)
  intro a b _ hb hab heq
  have hwants := wants_of_hasRevision (hab heq)
  rw [(Settings.mem_unwanted.1 hb).2] at hwants
  exact absurd hwants (by decide)

/-- After the destroy of the first of the members that are to be replaced, the others are left, in
their order. -/
theorem destroyOrder_destroy {source : Settings} (hl : Lineage s.revision g) {victim : Instance}
    {others : List Instance}
    (h : source.destroyOrder (s.unwanted g.members) = victim :: others) (reason : Reason) :
    source.destroyOrder (s.unwanted (g.destroy victim.id reason).1.members) = others := by
  have hvictim : victim ∈ s.unwanted g.members := by
    rw [← (Settings.destroyOrder_perm source _).mem_iff, h]
    exact List.mem_cons_self
  obtain ⟨before, after, hg, heq⟩ := members_destroy_of_mem_unwanted hl hvictim reason
  have hout : s.wants victim = false := (Settings.mem_unwanted.1 hvictim).2
  have hnone : s.unwanted (g.successors victim) = [] := by
    refine List.filter_eq_nil_iff.2 fun i hi => ?_
    simp [wants_of_hasRevision (hasRevision_of_mem_successors hl hi)]
  have hsplit : s.unwanted g.members = s.unwanted before ++ victim :: s.unwanted after := by
    rw [hg]
    simp [Settings.unwanted, hout]
  have hrest : s.unwanted (g.destroy victim.id reason).1.members =
      s.unwanted before ++ s.unwanted after := by
    rw [heq]
    simpa [Settings.unwanted] using hnone
  have hids := hl.nodup_unwanted
  rw [hsplit] at hids h
  rw [hrest]
  exact Settings.destroyOrder_append hids h

theorem wanted_destroy_eq (hl : Lineage s.revision g) (hr : g.replacement = some s.revision)
    {victim : Instance} (hvictim : victim ∈ s.unwanted g.members) (reason : Reason) :
    s.wanted (g.destroy victim.id reason).1.members =
      s.wanted g.members ++ [replacementOf victim s.revision g.serial] := by
  obtain ⟨-, hout⟩ := Settings.mem_unwanted.1 hvictim
  obtain ⟨before, after, hg, heq⟩ := members_destroy_of_mem_unwanted hl hvictim reason
  have hfresh : g.successors victim = [replacementOf victim s.revision g.serial] := by
    simp [successors, hr]
  have hwants : s.wants (replacementOf victim s.revision g.serial) = true :=
    wants_of_hasRevision (hasRevision_replacementOf victim s.revision g.serial)
  rw [heq, hg, hfresh]
  simp [Settings.wanted, hout, hwants]

/-- After the destroy of a member that is to be replaced one more member is to stay. -/
theorem wanted_destroy (hl : Lineage s.revision g) (hr : g.replacement = some s.revision)
    {victim : Instance} (hvictim : victim ∈ s.unwanted g.members) (reason : Reason) :
    ∃ fresh, s.wanted (g.destroy victim.id reason).1.members = s.wanted g.members ++ [fresh] :=
  ⟨_, wanted_destroy_eq hl hr hvictim reason⟩

/-- Whoever destroys whatever: a member that is to be replaced is still there, or there is one
more member to stay. -/
theorem mem_destroy_or_length_lt (hl : Lineage s.revision g)
    (hr : g.replacement = some s.revision) {victim : Instance}
    (hvictim : victim ∈ s.unwanted g.members) (id : String) (reason : Reason) :
    victim ∈ s.unwanted (g.destroy id reason).1.members ∨
      (s.wanted g.members).length < (s.wanted (g.destroy id reason).1.members).length := by
  by_cases hid : victim.id = id
  · subst hid
    obtain ⟨fresh, hfresh⟩ := wanted_destroy hl hr hvictim reason
    exact .inr (by simp [hfresh])
  · obtain ⟨hmem, hout⟩ := Settings.mem_unwanted.1 hvictim
    refine .inl (Settings.mem_unwanted.2 ⟨?_, hout⟩)
    rcases members_destroy g id reason with
      ⟨-, heq⟩ | ⟨before, removed, after, hg, hremoved, -, heq⟩
    · rwa [heq]
    · have hne : victim ≠ removed := fun h => hid (h ▸ hremoved)
      have hrest : victim ∈ before ∨ victim ∈ after := by simpa [hg, hne] using hmem
      rw [heq]
      exact List.mem_append_left _ (List.mem_append.2 hrest)

end Rollout.Group
