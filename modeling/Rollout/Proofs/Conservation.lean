import Mathlib.Data.List.Induction
import Mathlib.Data.List.Nodup
import Rollout.Proofs.History

/-!
# Conservation of ids

Whatever is done to a group, no id is lost and none is made up: the ids of the members and those
in the log are the ids at the beginning and those of the replacements, which are numbered on. A
destroy moves one id into the log (`Balanced.remove`) and puts the next number into the group
(`Balanced.replace`). The numbers are all different as long as the serial number does not start
over; but a member may have such an id from the beginning.
-/

namespace Rollout

theorem Text.paddedDecimal_inj {width m n : Nat}
    (h : paddedDecimal width m = paddedDecimal width n) : m = n := by
  have hvalue (k : Nat) : Nat.ofDigitChars 10 (paddedDecimal width k) 0 = k := by
    rw [paddedDecimal, Nat.ofDigitChars_append, Nat.ofDigitChars_replicate_zero, Nat.mul_zero,
      decimal, Nat.ofDigitChars_ten_toDigits]
  rw [← hvalue m, h, hvalue]

namespace Group

def numberedId (n : Nat) : String := "replacement-" ++ String.ofList (Text.paddedDecimal 4 n)

theorem numberedId_inj {m n : Nat} (h : numberedId m = numberedId n) : m = n := by
  have hchars := congrArg String.toList h
  simp only [numberedId, String.toList_append, String.toList_ofList] at hchars
  exact Text.paddedDecimal_inj (List.append_cancel_left hchars)

def numberedIds (k : Nat) : List String := (List.range k).map numberedId

theorem nodup_numberedIds (k : Nat) : (numberedIds k).Nodup :=
  List.nodup_range.map fun _ _ => numberedId_inj

theorem numberedIds_succ (k : Nat) : numberedIds (k + 1) = numberedIds k ++ [numberedId k] := by
  simp [numberedIds, List.range_succ]

theorem replacementId_eq (serial : UInt64) : replacementId serial = numberedId serial.toNat := rfl

/-- The ids in a group and in its log are those at the beginning and some that were made since. -/
structure Balanced (initial made : List String) (g : Group) : Prop where
  perm : (g.members.map Instance.id ++ g.destroyed.map Prod.fst).Perm (initial ++ made)
  sublist : (g.members.map Instance.id).Sublist (initial ++ made)

variable {initial made : List String} {g : Group} {removed : Instance}
  {before after members : List Instance} {id : String} {replacement : Option Revision}

theorem Balanced.remove (h : Balanced initial made g) (reason : Reason)
    (hg : g.members = before ++ removed :: after) (hid : removed.id = id)
    (hrest : (g.remove id reason).members = before ++ after) :
    Balanced initial made (g.remove id reason) := by
  subst hid
  obtain ⟨hperm, hsub⟩ := h
  rw [hg] at hperm hsub
  constructor
  · rw [hrest]
    refine List.Perm.trans ?_ hperm
    simp only [Group.remove, List.map_append, List.map_cons, List.map_nil, List.append_assoc,
      List.cons_append]
    apply List.Perm.append_left
    rw [← List.append_assoc]
    exact List.perm_append_singleton _ _
  · rw [hrest]
    exact (((List.sublist_cons_self removed after).append_left before).map _).trans hsub

theorem Balanced.replace (h : Balanced initial made g) (removed : Instance)
    (revision : Revision) :
    Balanced initial (made ++ [numberedId g.serial.toNat]) (g.replace removed revision).1 := by
  obtain ⟨hperm, hsub⟩ := h
  constructor
  · have hmade := hperm.append_right [numberedId g.serial.toNat]
    simp only [Group.replace, List.map_append, List.map_cons, List.map_nil, id_replacementOf,
      replacementId_eq]
    rw [List.append_assoc] at hmade ⊢
    rw [List.append_assoc] at hmade
    exact (List.perm_append_comm.append_left _).trans hmade
  · simp only [Group.replace, List.map_append, List.map_cons, List.map_nil, id_replacementOf,
      replacementId_eq]
    rw [← List.append_assoc]
    exact hsub.append_right _

/-- How many replacements were made for the instances in the log. -/
def replaced (g : Group) : Nat := if g.replacement.isSome then g.destroyed.length else 0

theorem replaced_le (g : Group) : g.replaced ≤ g.destroyed.length := by
  unfold replaced
  split <;> omega

/-- The ids are balanced, and the replacements numbered, until the serial number starts over. -/
def Accounted (initial : List String) (g : Group) : Prop :=
  g.destroyed.length < UInt64.size →
    Balanced initial (numberedIds g.replaced) g ∧ g.serial.toNat = g.replaced

theorem accounted_ofMembers (members : List Instance) (replacement : Option Revision)
    (health : Health) :
    Accounted (members.map Instance.id) (ofMembers members replacement health) := by
  intro _
  have hnone : (ofMembers members replacement health).replaced = 0 := by
    unfold replaced
    split <;> rfl
  rw [hnone]
  exact ⟨⟨by simp [ofMembers, numberedIds], by simp [ofMembers, numberedIds]⟩, rfl⟩

theorem Accounted.destroy (h : Accounted initial g) (id : String) (reason : Reason) :
    Accounted initial (g.destroy id reason).1 := by
  rcases destroy_cases g id reason with
    ⟨-, heq⟩ | ⟨before, removed, after, hg, hid, -, hrest, heq⟩
  · rw [heq]
    exact h
  rw [heq]
  cases hreplacement : g.replacement with
  | none =>
      intro hlog
      simp only [remove, List.length_append, List.length_singleton] at hlog
      obtain ⟨hbalanced, hserial⟩ := h (by omega)
      have hreplaced : (g.remove id reason).replaced = g.replaced := by
        simp [replaced, remove, hreplacement]
      rw [hreplaced]
      exact ⟨hbalanced.remove reason hg hid hrest, hserial⟩
  | some revision =>
      intro hlog
      simp only [replace, remove, List.length_append, List.length_singleton] at hlog
      obtain ⟨hbalanced, hserial⟩ := h (by omega)
      have hreplaced : ((g.remove id reason).replace removed revision).1.replaced =
          g.replaced + 1 := by
        simp [replaced, replace, remove, hreplacement]
      have hfull := (hbalanced.remove reason hg hid hrest).replace removed revision
      have hnext : (g.serial + 1).toNat = g.serial.toNat + 1 := by
        have hle := g.replaced_le
        rw [UInt64.toNat_add]
        apply Nat.mod_eq_of_lt
        change g.serial.toNat + 1 < UInt64.size
        omega
      rw [hreplaced, numberedIds_succ]
      exact ⟨hserial ▸ hfull, hnext.trans (congrArg (· + 1) hserial)⟩

theorem Accounted.perform (h : Accounted initial g) (op : Op) :
    Accounted initial (g.perform op) := by
  cases op with
  | change c =>
      cases c with
      | destroy id reason => exact h.destroy id reason
      | setHealth | setHealthOf | setFailing =>
          exact fun hlog => ⟨⟨(h hlog).1.perm, (h hlog).1.sublist⟩, (h hlog).2⟩
  | list => exact fun hlog => ⟨⟨(h hlog).1.perm, (h hlog).1.sublist⟩, (h hlog).2⟩
  | health id => exact h

theorem accounted_performAll (members : List Instance) (replacement : Option Revision)
    (health : Health) (ops : List Op) :
    Accounted (members.map Instance.id)
      ((ofMembers members replacement health).performAll ops) :=
  performAll_induction (accounted_ofMembers members replacement health)
    (fun _ op h => h.perform op) ops

theorem length_destroyed_perform_le (g : Group) (op : Op) :
    (g.perform op).destroyed.length ≤ g.destroyed.length + if op.isDestroy then 1 else 0 := by
  cases op with
  | change c =>
      cases c with
      | destroy id reason =>
          rcases destroy_cases g id reason with ⟨-, heq⟩ | ⟨_, removed, _, -, -, -, -, heq⟩
          · simp [perform, apply, heq, Op.isDestroy]
          · simp only [perform, apply, heq, Op.isDestroy]
            split <;> simp [remove, replace]
      | setHealth | setHealthOf | setFailing => simp [perform, apply, setHealth, setHealthOf]
  | list | health => simp [perform, list]

theorem length_destroyed_performAll_le (g : Group) (ops : List Op) :
    (g.performAll ops).destroyed.length ≤ g.destroyed.length + ops.countP Op.isDestroy := by
  induction ops using List.reverseRecOn with
  | nil => simp [performAll]
  | append_singleton ops op ih =>
      have hstep := length_destroyed_perform_le (g.performAll ops) op
      rw [performAll_concat, List.countP_append, List.countP_singleton]
      omega

/-- What is left of the members after a history, and where the others went. -/
structure Conserved (members : List Instance) (replacement : Option Revision) (g : Group) :
    Prop where
  replacement_eq : g.replacement = replacement
  perm : (g.members.map Instance.id ++ g.destroyed.map Prod.fst).Perm
    (members.map Instance.id ++ numberedIds g.replaced)
  nodup : (numberedIds g.replaced).Nodup
  sublist : (g.members.map Instance.id).Sublist
    (members.map Instance.id ++ numberedIds g.replaced)
  length_of_isSome : replacement.isSome = true → g.members.length = members.length
  length_of_none : replacement = none → g.members.length + g.destroyed.length = members.length
  unknown : ∀ id reason, (∀ i ∈ g.members, i.id ≠ id) → (g.destroy id reason).1 = g

theorem conserved_performAll (members : List Instance) (replacement : Option Revision)
    (health : Health) (ops : List Op) (hops : ops.countP Op.isDestroy < UInt64.size) :
    Conserved members replacement ((ofMembers members replacement health).performAll ops) := by
  have haccounted := accounted_performAll members replacement health ops
  have hlog := length_destroyed_performAll_le (ofMembers members replacement health) ops
  have hreplacement := replacement_performAll (ofMembers members replacement health) ops
  generalize (ofMembers members replacement health).performAll ops = g at *
  simp only [ofMembers, List.length_nil] at hlog hreplacement
  obtain ⟨⟨hperm, hsub⟩, -⟩ := haccounted (by omega)
  have hlength := hperm.length_eq
  simp only [List.length_append, List.length_map, numberedIds, List.length_range] at hlength
  refine ⟨hreplacement, hperm, nodup_numberedIds _, hsub, ?_, ?_, ?_⟩
  · intro hsome
    simp only [replaced, hreplacement, hsome, if_true] at hlength
    omega
  · intro hnone
    simp only [replaced, hreplacement, hnone, Option.isSome_none, Bool.false_eq_true,
      if_false] at hlength
    omega
  · intro id reason hid
    rcases destroy_cases g id reason with ⟨-, heq⟩ | ⟨before, removed, after, hg, heq, -⟩
    · exact heq
    · exact absurd heq (hid removed (by simp [hg]))

/-- Some ids are there twice, one looks like that of a replacement, and one is unknown. -/
theorem conserved_performAll_lookalike :
    let members := ["replacement-0000", "a", "a"].map Instance.ofId
    let ops : List Op := [.list, .change (.destroy "a" .manual), .change (.setFailing true), .list,
      .change (.destroy "b" .manual), .change (.destroy "replacement-0000" .rollingUpdate)]
    let g := (ofMembers members (some "r2") .unhealthy).performAll ops
    ops.countP Op.isDestroy < UInt64.size ∧ Conserved members (some "r2") g ∧
      g.members.map Instance.id = ["a", "replacement-0000", "replacement-0001"] ∧
      g.destroyed = [("a", .manual), ("replacement-0000", .rollingUpdate)] := by
  intro members ops g
  have hops : ops.countP Op.isDestroy < UInt64.size := by decide
  exact ⟨hops, conserved_performAll members _ _ ops hops, by decide, by decide⟩

end Group

end Rollout
