import Rollout.Options
import Rollout.Proofs.Quoting
import Rollout.Proofs.Spelling
import Rollout.Update.Status

/-!
# What options are accepted

Options are accepted exactly where both the poll interval and the policy are given as they may be,
or not at all; the slot may be any text. The interval is looked at first, so that a fault in the
policy is only told of where the interval is in order. Both faults show the text as it was given.
-/

namespace Rollout

namespace SelfPolicy

theorem ofName?_eq_some_iff {name : String} {policy : SelfPolicy} :
    ofName? name = some policy ↔ name = policy.name := by
  constructor
  · intro h
    unfold ofName? at h
    split at h
    · obtain rfl := Option.some.inj h
      rfl
    · obtain rfl := Option.some.inj h
      rfl
    · cases h
  · rintro rfl
    cases policy <;> rfl

theorem isLower_of_mem_name (policy : SelfPolicy) : ∀ l ∈ policy.name.toList, l.isLower = true := by
  rw [← List.all_eq_true]
  cases policy <;> rfl

theorem ofText_eq_ok_iff {text : String} {policy : SelfPolicy} :
    ofText text = .ok policy ↔ ∃ core, Text.TrimsTo text core ∧ Text.Spells policy.name core := by
  have hread : ofText text = .ok policy ↔ ofName? (Text.lower (Text.trim text)) = some policy := by
    unfold ofText
    cases ofName? (Text.lower (Text.trim text)) <;> simp
  rw [hread, ofName?_eq_some_iff, Text.lower_eq_iff policy.isLower_of_mem_name]
  constructor
  · intro h
    exact ⟨_, Text.trimsTo_trim text, h⟩
  · rintro ⟨core, htrim, h⟩
    rwa [Text.trim_eq_iff.2 htrim]

theorem ofText_eq_error {text : String} (h : ∀ policy, ofText text ≠ .ok policy) :
    ofText text = .error ⟨text⟩ := by
  cases hread : ofText text with
  | ok policy => exact absurd hread (h policy)
  | error cause =>
      unfold ofText at hread
      split at hread
      · cases hread
      · rw [← Except.error.inj hread]

end SelfPolicy

namespace Options

variable {lookup : String → Option String} {text : String} {given : Option String}

/-- The poll interval that a text gives, if there is one. -/
inductive GivesInterval : Option String → Nat → Prop where
  | absent : GivesInterval none 10000
  | given {text core : String} {n : Nat} (trims : Text.TrimsTo text core)
      (spells : Text.SpellsCount core n) (pos : 0 < n) (fits : n < UInt64.size) :
      GivesInterval (some text) n

inductive GivesSlot : Option String → Option String → Prop where
  | absent : GivesSlot none none
  | blank {text : String} (trims : Text.TrimsTo text "") : GivesSlot (some text) none
  | given {text slot : String} (trims : Text.TrimsTo text slot) (ne : slot ≠ "") :
      GivesSlot (some text) (some slot)

inductive GivesPolicy : Option String → SelfPolicy → Prop where
  | absent : GivesPolicy none .last
  | never {text core : String} (trims : Text.TrimsTo text core) (spells : Text.Spells "never" core) :
      GivesPolicy (some text) .never
  | last {text core : String} (trims : Text.TrimsTo text core) (spells : Text.Spells "last" core) :
      GivesPolicy (some text) .last

theorem givesPolicy_some_iff {policy : SelfPolicy} :
    GivesPolicy (some text) policy ↔
      ∃ core, Text.TrimsTo text core ∧ Text.Spells policy.name core := by
  constructor
  · rintro (_ | ⟨htrims, hspells⟩ | ⟨htrims, hspells⟩)
    · exact ⟨_, htrims, hspells⟩
    · exact ⟨_, htrims, hspells⟩
  · rintro ⟨core, htrims, hspells⟩
    cases policy with
    | never => exact .never htrims hspells
    | last => exact .last htrims hspells

def GivesZero (text : String) : Prop := ∃ core, Text.TrimsTo text core ∧ Text.SpellsCount core 0

theorem readCount_trim_eq_ok_iff {n : Nat} :
    Text.readCount (Text.trim text) = .ok n ↔
      ∃ core, Text.TrimsTo text core ∧ Text.SpellsCount core n ∧ n < UInt64.size := by
  have hlimit : wordLimit = UInt64.size := rfl
  rw [Text.readCount_eq_ok_iff, hlimit]
  constructor
  · intro h
    exact ⟨_, Text.trimsTo_trim text, h⟩
  · rintro ⟨core, htrim, h⟩
    rwa [Text.trim_eq_iff.2 htrim]

theorem readOr_readPollInterval_eq_ok_iff {n : Nat} :
    readOr given readPollInterval unset.pollInterval = .ok n ↔ GivesInterval given n := by
  cases given with
  | none =>
      constructor
      · intro h
        obtain rfl := Except.ok.inj h
        exact .absent
      · rintro ⟨⟩
        rfl
  | some text =>
      have hread : readPollInterval text = .ok n ↔
          Text.readCount (Text.trim text) = .ok n ∧ n ≠ 0 := by
        unfold readPollInterval
        cases Text.readCount (Text.trim text) with
        | error cause => simp
        | ok m => cases m <;> grind
      rw [readOr, hread, readCount_trim_eq_ok_iff]
      constructor
      · rintro ⟨⟨core, htrims, hspells, hfits⟩, hne⟩
        exact .given htrims hspells (Nat.pos_of_ne_zero hne) hfits
      · rintro (_ | ⟨htrims, hspells, hpos, hfits⟩)
        exact ⟨⟨_, htrims, hspells, hfits⟩, Nat.ne_of_gt hpos⟩

theorem bind_readSelfSlot_eq_iff {slot : Option String} :
    given.bind readSelfSlot = slot ↔ GivesSlot given slot := by
  cases given with
  | none =>
      constructor
      · rintro rfl
        exact .absent
      · rintro ⟨⟩
        rfl
  | some text =>
      have htrims := Text.trimsTo_trim text
      simp only [Option.bind_some, readSelfSlot]
      constructor
      · rintro rfl
        split
        · rename_i hblank
          rw [hblank] at htrims
          exact .blank htrims
        · rename_i hne
          exact .given htrims hne
      · rintro (_ | hblank | ⟨hgiven, hne⟩)
        · rw [Text.trim_eq_iff.2 hblank, if_pos rfl]
        · rw [Text.trim_eq_iff.2 hgiven, if_neg hne]

theorem readOr_readPolicy_eq_ok_iff {policy : SelfPolicy} :
    readOr given readPolicy unset.policy = .ok policy ↔ GivesPolicy given policy := by
  cases given with
  | none =>
      constructor
      · intro h
        obtain rfl := Except.ok.inj h
        exact .absent
      · rintro ⟨⟩
        rfl
  | some text =>
      have hread : readPolicy text = .ok policy ↔ SelfPolicy.ofText text = .ok policy := by
        unfold readPolicy
        cases SelfPolicy.ofText text <;> simp
      rw [readOr, hread, SelfPolicy.ofText_eq_ok_iff, givesPolicy_some_iff]

theorem readPollInterval_of_zero (h : GivesZero text) :
    readPollInterval text = .error .zeroPollInterval := by
  obtain ⟨core, htrims, hspells⟩ := h
  have hread : Text.readCount (Text.trim text) = .ok 0 :=
    readCount_trim_eq_ok_iff.2 ⟨core, htrims, hspells, by decide⟩
  rw [readPollInterval, hread]
  rfl

theorem readPollInterval_of_not (h : ∀ n, ¬GivesInterval (some text) n) (hzero : ¬GivesZero text) :
    ∃ cause, readPollInterval text = .error (.pollInterval text cause) := by
  cases hread : Text.readCount (Text.trim text) with
  | error cause => exact ⟨cause, by rw [readPollInterval, hread]⟩
  | ok n =>
      obtain ⟨core, htrims, hspells, hfits⟩ := readCount_trim_eq_ok_iff.1 hread
      cases n with
      | zero => exact absurd ⟨core, htrims, hspells⟩ hzero
      | succ n => exact absurd (.given htrims hspells n.succ_pos hfits) (h (n + 1))

theorem readPolicy_of_not (h : ∀ policy, ¬GivesPolicy (some text) policy) :
    readPolicy text = .error (.policy ⟨text⟩) := by
  have hread : SelfPolicy.ofText text = .error ⟨text⟩ := by
    refine SelfPolicy.ofText_eq_error fun policy hpolicy => ?_
    exact h policy (givesPolicy_some_iff.2 (SelfPolicy.ofText_eq_ok_iff.1 hpolicy))
  unfold readPolicy
  rw [hread]

theorem load_eq (lookup : String → Option String) :
    load lookup =
      match readOr (lookup pollIntervalKey) readPollInterval unset.pollInterval with
      | .error fault => .error fault
      | .ok pollInterval =>
        match readOr (lookup policyKey) readPolicy unset.policy with
        | .error fault => .error fault
        | .ok policy => .ok ⟨pollInterval, (lookup selfSlotKey).bind readSelfSlot, policy⟩ := by
  unfold load
  cases readOr (lookup pollIntervalKey) readPollInterval unset.pollInterval with
  | error fault => rfl
  | ok n =>
      cases readOr (lookup policyKey) readPolicy unset.policy with
      | error fault => rfl
      | ok policy => rfl

theorem load_eq_ok_iff {o : Options} :
    load lookup = .ok o ↔ GivesInterval (lookup pollIntervalKey) o.pollInterval ∧
      GivesSlot (lookup selfSlotKey) o.selfSlot ∧ GivesPolicy (lookup policyKey) o.policy := by
  rw [← readOr_readPollInterval_eq_ok_iff, ← bind_readSelfSlot_eq_iff,
    ← readOr_readPolicy_eq_ok_iff, load_eq]
  cases readOr (lookup pollIntervalKey) readPollInterval unset.pollInterval with
  | error fault => simp
  | ok n =>
      cases readOr (lookup policyKey) readPolicy unset.policy with
      | error fault => simp
      | ok policy =>
          obtain ⟨interval, slot, own⟩ := o
          simp

theorem GivesInterval.pos {n : Nat} (h : GivesInterval given n) : 0 < n := by
  cases h with
  | absent => decide
  | given _ _ pos _ => exact pos

/-- The options that are accepted have a poll interval other than zero. -/
theorem pollInterval_pos {o : Options} (h : load lookup = .ok o) : 0 < o.pollInterval :=
  (load_eq_ok_iff.1 h).1.pos

theorem exists_givesSlot (given : Option String) : ∃ slot, GivesSlot given slot :=
  ⟨_, bind_readSelfSlot_eq_iff.1 rfl⟩

/-- What is made of the texts that are looked up: the options that they give, or where one of
them gives nothing, what is told of the first such text. -/
structure Loading (lookup : String → Option String) : Prop where
  accepts_iff : (∃ o, load lookup = .ok o) ↔
    (∃ n, GivesInterval (lookup "FLEET_GROUP_POLL_INTERVAL_MS") n) ∧
      ∃ policy, GivesPolicy (lookup "FLEET_GROUP_POLICY_LEADER_SELF_UPDATE") policy
  ok_iff : ∀ o, load lookup = .ok o ↔
    GivesInterval (lookup "FLEET_GROUP_POLL_INTERVAL_MS") o.pollInterval ∧
      GivesSlot (lookup "FLEET_GROUP_SELF_LOGICAL_ID") o.selfSlot ∧
      GivesPolicy (lookup "FLEET_GROUP_POLICY_LEADER_SELF_UPDATE") o.policy
  /-- No wait ends at its beginning for want of a period. -/
  awaits : ∀ o, load lookup = .ok o →
    ∀ now aim, Update.await o.pollInterval now aim ≠ .ended .noPeriod
  zero_interval : ∀ text, lookup "FLEET_GROUP_POLL_INTERVAL_MS" = some text → GivesZero text →
    ∃ fault, load lookup = .error fault ∧
      fault.message = "FLEET_GROUP_POLL_INTERVAL_MS must be greater than zero"
  bad_interval : ∀ text, lookup "FLEET_GROUP_POLL_INTERVAL_MS" = some text →
    (∀ n, ¬GivesInterval (some text) n) → ¬GivesZero text →
    ∃ fault shown, load lookup = .error fault ∧
      fault.message = "invalid FLEET_GROUP_POLL_INTERVAL_MS: " ++ shown ∧ Text.Quotes text shown
  bad_policy : ∀ text, lookup "FLEET_GROUP_POLICY_LEADER_SELF_UPDATE" = some text →
    (∃ n, GivesInterval (lookup "FLEET_GROUP_POLL_INTERVAL_MS") n) →
    (∀ policy, ¬GivesPolicy (some text) policy) →
    ∃ fault, load lookup = .error fault ∧
      fault.message = "invalid FLEET_GROUP_POLICY_LEADER_SELF_UPDATE" ∧
      fault.causes =
        ["invalid leader self-update policy '" ++ text ++ "': expected 'never' or 'last'"]

theorem load_exact (lookup : String → Option String) : Loading lookup where
  accepts_iff := by
    constructor
    · rintro ⟨o, ho⟩
      obtain ⟨hinterval, -, hpolicy⟩ := load_eq_ok_iff.1 ho
      exact ⟨⟨_, hinterval⟩, _, hpolicy⟩
    · rintro ⟨⟨n, hinterval⟩, policy, hpolicy⟩
      obtain ⟨slot, hslot⟩ := exists_givesSlot (lookup selfSlotKey)
      exact ⟨⟨n, slot, policy⟩, load_eq_ok_iff.2 ⟨hinterval, hslot, hpolicy⟩⟩
  ok_iff o := load_eq_ok_iff
  awaits o ho now aim := by
    rw [Update.await, dif_pos (pollInterval_pos ho)]
    simp
  zero_interval text htext hzero := by
    change lookup pollIntervalKey = some text at htext
    refine ⟨.zeroPollInterval, ?_, rfl⟩
    rw [load_eq, htext, readOr, readPollInterval_of_zero hzero]
  bad_interval text htext hnot hzero := by
    change lookup pollIntervalKey = some text at htext
    obtain ⟨cause, hread⟩ := readPollInterval_of_not hnot hzero
    refine ⟨.pollInterval text cause, Text.quoted text, ?_, rfl, Text.quotes_quoted text⟩
    rw [load_eq, htext, readOr, hread]
  bad_policy text htext hinterval hnot := by
    obtain ⟨n, hinterval⟩ := hinterval
    change lookup policyKey = some text at htext
    change GivesInterval (lookup pollIntervalKey) n at hinterval
    refine ⟨.policy ⟨text⟩, ?_, rfl, rfl⟩
    rw [load_eq, readOr_readPollInterval_eq_ok_iff.2 hinterval, htext]
    simp only [readOr, readPolicy_of_not hnot]

end Options

end Rollout
