import Rollout.Proofs.Loading
import Rollout.Simulation.Program

/-!
# What the simulator finds in its environment

An environment is accepted where the number of instances and the health of replacements are given
as they may be, or not at all, and the options of the controller are accepted. The images may be
any texts, and no text about the log is at fault: where none is given, the log shows everything
that is not only of use for a closer look.
-/

namespace Rollout

namespace Health

theorem ofName?_eq_some_iff {name : String} {health : Health} :
    ofName? name = some health ↔ name = health.name := by
  constructor
  · intro h
    unfold ofName? at h
    split at h
    · obtain rfl := Option.some.inj h
      rfl
    · obtain rfl := Option.some.inj h
      rfl
    · obtain rfl := Option.some.inj h
      rfl
    · cases h
  · rintro rfl
    cases health <;> rfl

theorem isLower_of_mem_name (health : Health) : ∀ l ∈ health.name.toList, l.isLower = true := by
  rw [← List.all_eq_true]
  cases health <;> rfl

end Health

namespace Simulation

variable {lookup : String → Option String} {given : Option String} {s : Setting}
  {filter : Log.Filter} {complaints : String}

/-- The number of instances that a text gives, if there is one. -/
inductive GivesSize : Option String → Nat → Prop where
  | absent : GivesSize none 3
  | given {text : String} {n : Nat} (spells : Text.SpellsCount text n) (fits : n < UInt64.size) :
      GivesSize (some text) n

inductive GivesHealth : Option String → Health → Prop where
  | absent : GivesHealth none .healthy
  | healthy {text core : String} (trims : Text.TrimsTo text core)
      (spells : Text.Spells "healthy" core) : GivesHealth (some text) .healthy
  | unhealthy {text core : String} (trims : Text.TrimsTo text core)
      (spells : Text.Spells "unhealthy" core) : GivesHealth (some text) .unhealthy
  | unknown {text core : String} (trims : Text.TrimsTo text core)
      (spells : Text.Spells "unknown" core) : GivesHealth (some text) .unknown

theorem givesHealth_some_iff {text : String} {health : Health} :
    GivesHealth (some text) health ↔ Text.Spells health.name (Text.trim text) := by
  constructor
  · rintro (_ | ⟨htrims, hspells⟩ | ⟨htrims, hspells⟩ | ⟨htrims, hspells⟩)
    all_goals rwa [Text.trim_eq_iff.2 htrims]
  · intro hspells
    have htrims := Text.trimsTo_trim text
    cases health with
    | healthy => exact .healthy htrims hspells
    | unhealthy => exact .unhealthy htrims hspells
    | unknown => exact .unknown htrims hspells

theorem elim_readSize_eq_ok_iff {n : Nat} :
    given.elim (.ok 3) readSize = .ok n ↔ GivesSize given n := by
  cases given with
  | none =>
      constructor
      · intro h
        obtain rfl := Except.ok.inj h
        exact .absent
      · rintro ⟨⟩
        rfl
  | some text =>
      have hread : readSize text = .ok n ↔ Text.readCount text = .ok n := by
        unfold readSize
        cases Text.readCount text <;> simp
      have hlimit : wordLimit = UInt64.size := rfl
      rw [Option.elim_some, hread, Text.readCount_eq_ok_iff, hlimit]
      constructor
      · rintro ⟨hspells, hfits⟩
        exact .given hspells hfits
      · rintro (_ | ⟨hspells, hfits⟩)
        exact ⟨hspells, hfits⟩

theorem elim_readHealth_eq_ok_iff {health : Health} :
    given.elim (.ok .healthy) readHealth = .ok health ↔ GivesHealth given health := by
  cases given with
  | none =>
      constructor
      · intro h
        obtain rfl := Except.ok.inj h
        exact .absent
      · rintro ⟨⟩
        rfl
  | some text =>
      have hread : readHealth text = .ok health ↔
          Health.ofName? (Text.lower (Text.trim text)) = some health := by
        unfold readHealth
        cases Health.ofName? (Text.lower (Text.trim text)) <;> simp
      rw [Option.elim_some, hread, Health.ofName?_eq_some_iff,
        Text.lower_eq_iff health.isLower_of_mem_name, givesHealth_some_iff]

/-- A simulation is as an environment says. -/
structure Setting.GivenBy (lookup : String → Option String) (s : Setting) : Prop where
  size : GivesSize (lookup "FLEET_SIM_GROUP_SIZE") s.config.size
  sourceImage_eq : (lookup "FLEET_SIM_FROM_IMAGE").getD "app:v1" = s.config.sourceImage
  targetImage_eq : (lookup "FLEET_SIM_TO_IMAGE").getD "app:v2" = s.config.targetImage
  replacementHealth : GivesHealth (lookup "FLEET_SIM_REPLACEMENT_HEALTH") s.config.replacementHealth
  logLevel_eq : (lookup "FLEET_LOG_LEVEL").getD "info" = s.config.logLevel
  pollInterval : Options.GivesInterval (lookup "FLEET_GROUP_POLL_INTERVAL_MS")
    s.options.pollInterval
  selfSlot : Options.GivesSlot (lookup "FLEET_GROUP_SELF_LOGICAL_ID") s.options.selfSlot
  policy : Options.GivesPolicy (lookup "FLEET_GROUP_POLICY_LEADER_SELF_UPDATE") s.options.policy

theorem Config.load_eq_ok_iff {c : Config} :
    load lookup = .ok c ↔ GivesSize (lookup sizeKey) c.size ∧
      (lookup sourceImageKey).getD "app:v1" = c.sourceImage ∧
      (lookup targetImageKey).getD "app:v2" = c.targetImage ∧
      GivesHealth (lookup replacementHealthKey) c.replacementHealth ∧
      (lookup logLevelKey).getD "info" = c.logLevel := by
  rw [← elim_readSize_eq_ok_iff, ← elim_readHealth_eq_ok_iff]
  unfold load
  cases (lookup sizeKey).elim (.ok 3) readSize with
  | error fault => simp [Bind.bind, Except.bind]
  | ok size =>
      cases (lookup replacementHealthKey).elim (.ok .healthy) readHealth with
      | error fault => simp [Bind.bind, Except.bind]
      | ok health =>
          obtain ⟨_, _, _, _, _⟩ := c
          simp [Bind.bind, Except.bind, pure, Except.pure]

theorem prepare_eq_ok_iff :
    prepare lookup = .ok (s, filter, complaints) ↔
      Config.load lookup = .ok s.config ∧ Options.load lookup = .ok s.options ∧
        (s.config.filter lookup).1 = filter ∧
        String.join (s.config.filter lookup).2 = complaints := by
  obtain ⟨config, options⟩ := s
  unfold prepare
  cases Config.load lookup with
  | error fault => simp
  | ok found =>
      cases Options.load lookup with
      | error fault => simp
      | ok accepted =>
          simp only [Except.ok.injEq, Prod.mk.injEq, Setting.mk.injEq]
          constructor
          · rintro ⟨⟨rfl, rfl⟩, hfilter⟩
            exact ⟨rfl, rfl, hfilter⟩
          · rintro ⟨rfl, rfl, hfilter⟩
            exact ⟨⟨rfl, rfl⟩, hfilter⟩

/-- The environments that are accepted, and what is simulated in them. -/
theorem exists_prepare_iff :
    (∃ filter complaints, prepare lookup = .ok (s, filter, complaints)) ↔ s.GivenBy lookup := by
  simp only [prepare_eq_ok_iff, Config.load_eq_ok_iff, Options.load_eq_ok_iff]
  constructor
  · rintro ⟨_, _, ⟨hsize, hsource, htarget, hhealth, hlevel⟩, ⟨hinterval, hslot, hpolicy⟩, -⟩
    exact ⟨hsize, hsource, htarget, hhealth, hlevel, hinterval, hslot, hpolicy⟩
  · rintro ⟨hsize, hsource, htarget, hhealth, hlevel, hinterval, hslot, hpolicy⟩
    exact ⟨_, _, ⟨hsize, hsource, htarget, hhealth, hlevel⟩, ⟨hinterval, hslot, hpolicy⟩, rfl, rfl⟩

/-- What a simulation finds in its environment are options that a controller accepts. -/
theorem Setting.GivenBy.pollInterval_pos (h : s.GivenBy lookup) : 0 < s.options.pollInterval :=
  h.pollInterval.pos

/-! ## The filter where none is given -/

/-- A directive that names nothing lets pass what is within its verbosity, and nothing else. -/
theorem shows_singleton_iff (n : Nat) (spans : List Log.Span) (r : Log.Record) :
    (Log.Filter.mk [⟨none, none, none, n⟩]).shows spans r = true ↔ r.level.verbosity ≤ n := by
  have hdecisive : (Log.Filter.mk [⟨none, none, none, n⟩]).decisive? r =
      some ⟨none, none, none, n⟩ := rfl
  have hwithin (span : Log.Span) :
      (Log.Filter.mk [⟨none, none, none, n⟩]).verbosityWithin span = 0 := by
    unfold Log.Filter.verbosityWithin
    split <;> rfl
  have hpos : 0 < r.level.verbosity := by cases r.level <;> decide
  simp [Log.Filter.shows, hdecisive, hwithin, Nat.ne_of_gt hpos]

/-- Where no filter is given, everything is shown but what is only of use for a closer look. -/
theorem shows_iff_of_unset (hprepare : prepare lookup = .ok (s, filter, complaints))
    (hfilter : lookup filterKey = none) (hlevel : lookup logLevelKey = none)
    (spans : List Log.Span) (r : Log.Record) :
    filter.shows spans r = true ↔ r.level ∈ [.error, .warn, .info] := by
  have hread : (Log.Filter.readLoosely "info").1 = ⟨[⟨none, none, none, 3⟩]⟩ := by decide +kernel
  obtain ⟨hload, -, rfl, -⟩ := prepare_eq_ok_iff.1 hprepare
  obtain ⟨-, -, -, -, hinfo⟩ := Config.load_eq_ok_iff.1 hload
  rw [hlevel, Option.getD_none] at hinfo
  rw [Config.filter, hfilter, Option.bind_none, ← hinfo, hread, shows_singleton_iff]
  cases r.level <;> decide

end Simulation

end Rollout
