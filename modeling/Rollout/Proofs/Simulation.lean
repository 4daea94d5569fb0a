import Rollout.Proofs.Environment
import Rollout.Proofs.Progress
import Rollout.Proofs.Report
import Rollout.Proofs.Setting

/-!
# What a simulation comes to

The health of replacements decides how a simulated update ends, if it ends at all. If they are
healthy, all instances are replaced that are to be. If not, the first one of them ends the update,
or keeps it waiting for ever, so that only an interrupt ends it. Where nothing is to be replaced,
there is no replacement either, and the update is done after its first poll.
-/

namespace Rollout.Simulation

open Update Rehearsal

def isWaitNote : Note → Bool
  | .waiting .. | .waitingUnknown .. => true
  | _ => false

theorem isWaiting_note (n : Note) : isWaiting n.record = isWaitNote n := by
  cases n <;> simp [isWaiting, Note.record, isWaitNote, List.isPrefixOf]

namespace Setting

variable {s : Setting} {agenda : List (Nat × Action)} {deadline : Nat}

def interval (s : Setting) : Nat := min s.options.pollInterval longestWait

def play (s : Setting) (agenda : List (Nat × Action)) (deadline : Nat) : Play :=
  (s.start agenda).finish s.setup s.options.pollInterval deadline

theorem prompt (s : Setting) : s.setup.Prompt := ⟨fun _ => rfl, rfl⟩

theorem stands_start (hsorted : agenda.Pairwise fun a b => decide (a.1 ≤ b.1)) :
    (s.start agenda).Stands agenda 0 s.group (.calling .survey) [] where
  now_eq := rfl
  backend_eq := rfl
  going := rfl
  status_eq := rfl
  begun_eq := rfl
  agenda_eq := List.mergeSort_of_pairwise hsorted
  told_eq := rfl

theorem interval_le (s : Setting) : s.interval ≤ s.options.pollInterval := Nat.min_le_left _ _

theorem interval_pos (hperiod : 0 < s.options.pollInterval) : 0 < s.interval :=
  Nat.lt_min.2 ⟨hperiod, longestWait_pos⟩

theorem mul_interval_le_horizon {n : Nat} (h : n ≤ s.config.size + 2) :
    n * s.interval ≤ s.horizon := Nat.mul_le_mul h s.interval_le

theorem interval_le_horizon (s : Setting) : s.interval ≤ s.horizon := by
  rw [← Nat.one_mul s.interval]
  exact mul_interval_le_horizon (Nat.le_add_left 1 _)

/-- Where something is to be replaced, the horizon is behind the second poll. -/
theorem second_lt_horizon (hperiod : 0 < s.options.pollInterval) (hsome : 0 < s.toReplace) :
    s.interval + s.interval < s.horizon := by
  have hsize := s.toReplace_le
  have hpos := interval_pos hperiod
  have hthird : 3 * s.interval ≤ s.horizon := mul_interval_le_horizon (by omega)
  omega

theorem destroyedIn_of_stands {p : Play} {now : Nat} {g : Group} {status : Status}
    {told : List (Nat × Note)} (h : p.Stands agenda now g status told) :
    destroyedIn p.world = g.destroyed.length := by
  rw [destroyedIn, h.backend_eq]

/-! ## Updates that are done -/

def site (s : Setting) : Site :=
  ⟨s.group, s.options.pollInterval, ⟨0, false, .calling .survey⟩, []⟩

/-- Where nothing is left to replace, what was destroyed is what was to be replaced. -/
theorem length_destroyed_of_steps {t : Site}
    (hsteps : Relation.ReflTransGen (Site.Alone s.plan fun late => late = 0) s.site t)
    (hnone : s.plan.target.unwanted t.group.members = []) :
    t.group.destroyed.length = s.toReplace := by
  have hfirst : Site.Reach s.plan Group.Change.Spares s.group s.site := .first (.inl rfl)
  have halone : Site.Alone s.plan (fun late => late = 0) ≤ Site.Step s.plan Group.Change.Spares :=
    fun _ _ h => h.1.mono fun _ => False.elim
  have hreach := hfirst.steps (Relation.ReflTransGen.mono halone _ _ hsteps)
  obtain ⟨gone, left, hprogress⟩ := hreach.progress s.calm.lineage
  have hleft : left = [] := by
    rw [← hprogress.left_eq, Settings.destroyOrder_eq_nil_iff]
    exact hnone
  have horder := congrArg List.length hprogress.order_eq
  rw [(Settings.destroyOrder_perm s.plan.source _).length_eq, length_unwanted, hleft,
    List.append_nil] at horder
  rw [hprogress.destroyed_eq, List.length_append, List.length_map, horder]
  exact Nat.zero_add _

/-- Where replacements are healthy, all is replaced that is to be replaced. -/
theorem done_of_healthy (hperiod : 0 < s.options.pollInterval)
    (hhealthy : s.config.replacementHealth = .healthy) :
    (s.rehearse []).status = .ended .done ∧
      destroyedIn (s.rehearse []).world = s.toReplace := by
  have hsound : Sound s.plan s.group := s.calm.sound hhealthy
  have hconverges : Inevitably (Site.Alone s.plan fun late => late = 0) _ s.site :=
    hsound.inevitably_converged ⟨0, rfl⟩ hperiod
  obtain ⟨t, hsteps, hconverged, hnow⟩ := hconverges.exists_steps
  have hend : t.point.now ≤ s.horizon := by
    have hle := s.toReplace_le
    rw [hnow fun _ => id, Nat.zero_add, length_unwanted]
    exact mul_interval_le_horizon (by omega)
  have hpasses := (stands_start .nil).alone_steps s.prompt hsteps rfl rfl (by simp) hend
  obtain ⟨q, hfinish, told, hq⟩ := hpasses
  rw [hconverged.done] at hq
  have hrehearse : s.rehearse [] = q := hfinish.trans hq.finish_of_ended
  rw [hrehearse, destroyedIn_of_stands hq]
  exact ⟨hq.status_eq, length_destroyed_of_steps hsteps hconverged.unwanted_eq⟩

def staying (s : Setting) : Nat := (s.plan.target.wanted s.group.members).length

/-- What is told until the first poll has found all healthy that is to stay. -/
def prelude (s : Setting) : List (Nat × Note) :=
  [(0, .starting s.staying s.plan.target.size),
    (s.interval, .quiesced ((Aim.replace s.staying).threshold s.plan))]

/-- The first poll finds all healthy that is to stay, and then it is looked what to destroy. -/
theorem passes_proceed (hperiod : 0 < s.options.pollInterval)
    (hsorted : agenda.Pairwise fun a b => decide (a.1 ≤ b.1))
    (hlater : ∀ e ∈ agenda, s.interval < e.1) (hdeadline : s.interval ≤ deadline) :
    (s.start agenda).Passes s.setup s.options.pollInterval deadline
      (Play.Made agenda s.interval (s.group.relisted 3) s.prelude
        (s.plan.proceed s.staying s.group.members)) := by
  have hsoon : ∀ e ∈ agenda, 0 < e.1 := fun e he => (Nat.zero_le _).trans_lt (hlater e he)
  apply ((stands_start hsorted).survey s.prompt hsoon rfl).trans
  intro q hq
  have hzero : 0 + s.interval = s.interval := Nat.zero_add _
  have hround := hq.round s.prompt hperiod s.calm.list
    (fun e he => hzero.trans_lt (hlater e he)) (hzero.trans_le hdeadline)
  rw [Nat.zero_add] at hround
  exact hround

theorem done_of_none (hperiod : 0 < s.options.pollInterval) (hnone : s.toReplace = 0) :
    (s.rehearse []).status = .ended .done ∧ destroyedIn (s.rehearse []).world = 0 := by
  have hunwanted : s.plan.target.unwanted s.group.members = [] := by
    rw [← List.length_eq_zero_iff, length_unwanted, hnone]
  obtain ⟨q, hfinish, hq⟩ := passes_proceed hperiod .nil (by simp) s.interval_le_horizon
  rw [Play.Made, status_proceed_of_nil _ hunwanted] at hq
  have hrehearse : s.rehearse [] = q := hfinish.trans hq.finish_of_ended
  rw [hrehearse, destroyedIn_of_stands hq]
  exact ⟨hq.status_eq, rfl⟩

/-! ## The first replacement -/

/-- What becomes of the group with its first destroy. -/
structure Struck (s : Setting) (fresh : Instance) (g : Group) : Prop where
  stalled : Stalled s.plan.target (s.plan.target.wanted s.group.members) fresh g
  health_eq : g.health fresh.id = s.config.replacementHealth
  id_eq : fresh.id = "replacement-0000"
  length_destroyed : g.destroyed.length = 1
  listCalls_eq : g.listCalls = 3

theorem struck_destroy {victim : Instance}
    (hvictim : victim ∈ s.plan.target.unwanted s.group.members) :
    s.Struck (Group.replacementOf victim s.plan.target.revision s.group.serial)
      ((s.group.relisted 3).destroy victim.id .rollingUpdate).1 := by
  have hcalm : Calm s.plan (s.group.relisted 3) := s.calm.list.list.list
  have hids : ∀ i ∈ s.plan.target.wanted s.group.members,
      i.id ≠ Group.replacementId s.group.serial :=
    fun i hi => id_ne_replacementId (List.mem_of_mem_filter hi)
  obtain ⟨hstalled, hhealth⟩ := hcalm.stalled hvictim hids .rollingUpdate
  refine ⟨hstalled, hhealth, ?_, ?_, ?_⟩
  · rw [Group.id_replacementOf]
    change Group.replacementId 0 = _
    decide
  · have hmem : victim ∈ (s.group.relisted 3).members := List.mem_of_mem_filter hvictim
    rw [Group.destroyed_destroy hmem]
    rfl
  · rw [Group.listCalls_destroy]
    rfl

theorem isWaitNote_of_mem_destroy {g : Group} {id : String} {reason : Reason} {n : Note}
    (hn : n ∈ (g.destroy id reason).2) : isWaitNote n = false := by
  unfold Group.destroy at hn
  split at hn
  · obtain rfl := List.mem_singleton.1 hn
    rfl
  · split at hn
    · obtain rfl := List.mem_singleton.1 hn
      rfl
    · rcases List.mem_cons.1 hn with rfl | hn
      · rfl
      · obtain rfl := List.mem_singleton.1 hn
        rfl

/-- An update that has something to replace comes to a first destroy, and says nothing of waiting
before. -/
theorem passes_destroy (hperiod : 0 < s.options.pollInterval) (hsome : 0 < s.toReplace)
    (hsorted : agenda.Pairwise fun a b => decide (a.1 ≤ b.1))
    (hlater : ∀ e ∈ agenda, s.interval < e.1) (hdeadline : s.interval ≤ deadline) :
    (s.start agenda).Passes s.setup s.options.pollInterval deadline fun p =>
      ∃ fresh g told, s.Struck fresh g ∧ (∀ e ∈ told, isWaitNote e.2 = false) ∧
        p.Stands agenda s.interval g
          (await s.options.pollInterval s.interval (.replace (s.staying + 1))) told := by
  cases hleft : s.plan.source.destroyOrder (s.plan.target.unwanted s.group.members) with
  | nil =>
      have hnone := Settings.destroyOrder_eq_nil_iff.1 hleft
      rw [← length_unwanted, hnone] at hsome
      exact absurd hsome (Nat.lt_irrefl 0)
  | cons victim others =>
      have hvictim : victim ∈ s.plan.target.unwanted s.group.members := by
        rw [← (Settings.destroyOrder_perm s.plan.source _).mem_iff, hleft]
        exact List.mem_cons_self
      apply (passes_proceed hperiod hsorted hlater hdeadline).trans
      intro q hq
      apply (Play.Stands.destroy s.prompt hlater hleft hq).trans
      intro r hr
      refine .here ⟨_, _, _, struck_destroy hvictim, ?_, hr⟩
      refine List.forall_mem_append.2 ⟨?_, ?_⟩
      · simp [prelude, isWaitNote]
      · intro e he
        obtain ⟨note, hnote, rfl⟩ := List.mem_map.1 he
        exact isWaitNote_of_mem_destroy hnote

theorem staying_lt (hsome : 0 < s.toReplace) : s.staying < s.plan.target.size := by
  have hall : s.staying + s.toReplace = s.plan.target.size := s.length_wanted
  omega

theorem failed_of_unhealthy (hperiod : 0 < s.options.pollInterval)
    (hunhealthy : s.config.replacementHealth = .unhealthy) (hsome : 0 < s.toReplace) :
    (s.rehearse []).status = .ended (.failed (.unhealthy "replacement-0000")) ∧
      destroyedIn (s.rehearse []).world = 1 := by
  have hsecond : s.interval + s.interval ≤ s.horizon := (second_lt_horizon hperiod hsome).le
  obtain ⟨p, hdestroy, fresh, g, told, hstruck, -, hp⟩ :=
    passes_destroy hperiod hsome .nil (by simp) s.interval_le_horizon
  obtain ⟨q, hask, hq⟩ := hp.ask_fresh s.prompt hperiod hstruck.stalled (by simp) hsecond
  rw [hstruck.health_eq, hunhealthy] at hq
  simp only [Play.Made, Plan.resume, Move.fail, hstruck.id_eq] at hq
  have hrehearse : s.rehearse [] = q := (hdestroy.trans hask).trans hq.finish_of_ended
  rw [hrehearse, destroyedIn_of_stands hq]
  exact ⟨hq.status_eq, hstruck.length_destroyed⟩

/-! ## A replacement of which nothing is known -/

/-- What is told at the end of each poll that asks after the replacement. -/
def waitNote (s : Setting) : Note := .waitingUnknown s.staying 1 (s.staying + 1)

theorem firstWait?_eq (s : Setting) (filter : Log.Filter) (p : Play) :
    firstWait? s filter p = ((notesOf p).find? fun e =>
      filter.shows (s.spansOf e.2) e.2.record && isWaitNote e.2).map Prod.fst := by
  simp [firstWait?, shownNotes, List.find?_map, List.find?_filter, Function.comp_def,
    isWaiting_note]

section Unknown

variable (hperiod : 0 < s.options.pollInterval)
  (hunknown : s.config.replacementHealth = .unknown) (hsome : 0 < s.toReplace)
include hperiod hunknown hsome

/-- The update polls on, once in each interval. -/
theorem waits_of_unknown (hdeadline : s.interval ≤ deadline) :
    ∃ g aim ticker, (s.play [] deadline).status = .waiting aim ticker ∧
      (s.play [] deadline).world.backend = .group g ∧ g.destroyed.length = 1 ∧
      g.listCalls = deadline / s.interval + 2 := by
  obtain ⟨p, hdestroy, fresh, g, told, hstruck, -, hp⟩ :=
    passes_destroy hperiod hsome .nil (by simp) hdeadline
  obtain ⟨later, ticker, -, hend⟩ := hp.finish_stalled s.prompt hperiod
    (hstruck.health_eq.trans hunknown) (staying_lt hsome) hstruck.stalled hdeadline
  rw [← hdestroy] at hend
  have hpolls := Nat.div_eq_sub_div (interval_pos hperiod) hdeadline
  refine ⟨_, _, _, hend.status_eq, hend.backend_eq, hstruck.length_destroyed, ?_⟩
  simp only [Group.relisted, hstruck.listCalls_eq]
  rw [hpolls]
  exact Nat.add_comm 3 _

theorem stopped_of_unknown {time : Nat} (hnow : s.interval < time) (hdeadline : time ≤ deadline) :
    (s.play [(time, .stop)] deadline).status = .ended (.failed .halted) ∧
      destroyedIn (s.play [(time, .stop)] deadline).world = 1 := by
  have hlater : ∀ e ∈ [(time, Action.stop)], s.interval < e.1 := by simpa using hnow
  obtain ⟨p, hdestroy, fresh, g, told, hstruck, -, hp⟩ :=
    passes_destroy hperiod hsome (List.pairwise_singleton _ _) hlater (hnow.le.trans hdeadline)
  obtain ⟨hstatus, n, hbackend⟩ := hp.stop_stalled s.prompt hperiod
    (hstruck.health_eq.trans hunknown) (staying_lt hsome) hstruck.stalled hnow hdeadline
  rw [play, hdestroy, destroyedIn, hbackend]
  exact ⟨hstatus, hstruck.length_destroyed⟩

/-- Nothing is told of waiting before the poll after the first destroy, and always the same from
then on. -/
theorem told_of_unknown :
    ∃ before fresh later, (∀ e ∈ before, isWaitNote e.2 = false) ∧
      (∀ e ∈ later, isWaitNote e.2 = true → e.2 = s.waitNote) ∧
      notesOf (s.rehearse []) = before ++ ([(2 * s.interval, .unknownHealth fresh),
        (2 * s.interval, s.waitNote)] ++ later) := by
  have hsecond : s.interval + s.interval ≤ s.horizon := (second_lt_horizon hperiod hsome).le
  obtain ⟨p, hdestroy, fresh, g, told, hstruck, hquiet, hp⟩ :=
    passes_destroy hperiod hsome .nil (by simp) s.interval_le_horizon
  have hunknown : g.health fresh.id = .unknown := hstruck.health_eq.trans hunknown
  obtain ⟨q, hpoll, hq⟩ := hp.stall s.prompt hperiod hstruck.stalled hunknown
    (staying_lt hsome) (by simp) hsecond
  have hstill : g.list.2.health fresh.id = .unknown := hunknown
  obtain ⟨later, ticker, hlater, hend⟩ := hq.finish_stalled s.prompt hperiod hstill
    (staying_lt hsome) hstruck.stalled.list hsecond
  refine ⟨told, fresh.id, later, hquiet, ?_, ?_⟩
  · intro e he hwait
    have hnote : e.2 ∈ [.unknownHealth fresh.id, s.waitNote] := hlater e he
    rcases List.mem_pair.1 hnote with hnote | hnote
    · rw [hnote] at hwait
      exact absurd hwait (by simp [isWaitNote])
    · exact hnote
  · have hrehearse : s.rehearse [] = q.finish s.setup s.options.pollInterval s.horizon :=
      hdestroy.trans hpoll
    rw [hrehearse, hend.told_eq, Nat.two_mul, List.append_assoc]
    rfl

/-- The update first tells that it waits in the poll after the first destroy. -/
theorem firstWait?_of_unknown (filter : Log.Filter) :
    firstWait? s filter (s.rehearse []) =
      if filter.shows [s.span] s.waitNote.record then some (2 * s.interval) else none := by
  obtain ⟨before, fresh, later, hbefore, hlater, htold⟩ :=
    told_of_unknown hperiod hunknown hsome
  have hquiet : before.find? (fun e =>
      filter.shows (s.spansOf e.2) e.2.record && isWaitNote e.2) = none := by
    rw [List.find?_eq_none]
    intro e he
    simp [hbefore e he]
  have hspans : s.spansOf s.waitNote = [s.span] := rfl
  have hwait : isWaitNote s.waitNote = true := rfl
  have hnowait : isWaitNote (.unknownHealth fresh) = false := rfl
  rw [firstWait?_eq, htold, List.find?_append, hquiet, Option.none_or]
  by_cases hshows : filter.shows [s.span] s.waitNote.record = true
  · simp [hspans, hwait, hnowait, hshows]
  · have hrest : later.find? (fun e =>
        filter.shows (s.spansOf e.2) e.2.record && isWaitNote e.2) = none := by
      rw [List.find?_eq_none]
      intro e he hboth
      rw [Bool.and_eq_true] at hboth
      rw [hlater e he hboth.2] at hboth
      exact hshows hboth.1
    simp [hspans, hnowait, hshows, hrest]

end Unknown

end Setting

/-! ## Outcomes -/

section Outcomes

variable {s : Setting} {p : Play}

/-- All that was to be replaced is replaced, and nothing else. -/
structure Setting.Finishes (s : Setting) (filter : Log.Filter) (complaints : String) (o : Outcome) :
    Prop where
  done : (s.rehearse []).status = .ended .done
  destroyed_eq : destroyedIn (s.rehearse []).world = s.toReplace
  exitCode_eq : o.exitCode = 0
  reported : ClosesWith filter ⟨.info, "rollout_sim", "Update finished",
    [("destroyed", .num (.integer s.toReplace))]⟩ o.records
  complaints_eq : o.complaints = complaints

/-- The first replacement ends the update. -/
structure Setting.Fails (s : Setting) (filter : Log.Filter) (complaints : String) (o : Outcome) :
    Prop where
  failed : (s.rehearse []).status = .ended (.failed (.unhealthy "replacement-0000"))
  destroyed_eq : destroyedIn (s.rehearse []).world = 1
  exitCode_eq : o.exitCode = 1
  reported : ClosesWith filter ⟨.error, "rollout_sim", "Update failed",
    [("destroyed", .num (.integer 1)),
      ("error", .str "instance replacement-0000 is unhealthy")]⟩ o.records
  complaints_eq : o.complaints = complaints ++ "Error: instance replacement-0000 is unhealthy\n"

def stoppedRecord : Log.Record :=
  ⟨.info, "rollout_sim", "Update stopped before completion", [("destroyed", .num (.integer 1))]⟩

/-- An interrupt ends the update after one destroy. -/
structure Stops (filter : Log.Filter) (complaints : String) (p : Play) (o : Outcome) : Prop where
  halted : p.status = .ended (.failed .halted)
  destroyed_eq : destroyedIn p.world = 1
  exitCode_eq : o.exitCode = 0
  /-- It need not be the last one, as two threads write the log. -/
  reported : o.records.filter tellsEnd =
    if filter.shows [] stoppedRecord then [stoppedRecord] else []
  complaints_eq : o.complaints = complaints

/-- After one destroy the update polls for ever, unless it is interrupted. -/
structure Setting.Stays (s : Setting) (filter : Log.Filter) (complaints : String) : Prop where
  polls : ∀ deadline, s.interval ≤ deadline →
    ∃ g aim ticker, (s.play [] deadline).status = .waiting aim ticker ∧
      (s.play [] deadline).world.backend = .group g ∧ g.destroyed.length = 1 ∧
      g.listCalls = deadline / s.interval + 2
  stops : ∀ time deadline, s.interval < time → time ≤ deadline →
    ∃ o, conclude s filter complaints (s.play [(time, .stop)] deadline) true = some o ∧
      Stops filter complaints (s.play [(time, .stop)] deadline) o

variable {filter : Log.Filter} {complaints : String}

theorem finishes_of_done (hdone : (s.rehearse []).status = .ended .done)
    (hdestroyed : destroyedIn (s.rehearse []).world = s.toReplace) :
    ∃ o, simulate s filter complaints false = some o ∧ s.Finishes filter complaints o := by
  obtain ⟨records, hreported, ho⟩ := exists_closesWith filter complaints false hdone rfl
  rw [hdestroyed] at hreported
  exact ⟨_, ho, hdone, hdestroyed, rfl, hreported, rfl⟩

theorem fails_of_failed
    (hfailed : (s.rehearse []).status = .ended (.failed (.unhealthy "replacement-0000")))
    (hdestroyed : destroyedIn (s.rehearse []).world = 1) :
    ∃ o, simulate s filter complaints false = some o ∧ s.Fails filter complaints o := by
  obtain ⟨records, hreported, ho⟩ := exists_closesWith filter complaints false hfailed rfl
  rw [hdestroyed] at hreported
  have hreport : (Fault.update (.unhealthy "replacement-0000")).report =
      "Error: instance replacement-0000 is unhealthy\n" := by decide +kernel
  exact ⟨_, ho, hfailed, hdestroyed, rfl, hreported, congrArg (complaints ++ ·) hreport⟩

theorem stops_of_halted (hhalted : p.status = .ended (.failed .halted))
    (hdestroyed : destroyedIn p.world = 1) :
    ∃ o, conclude s filter complaints p true = some o ∧ Stops filter complaints p o := by
  obtain ⟨records, hreported, ho⟩ := exists_closesWith filter complaints true hhalted rfl
  rw [hdestroyed] at hreported
  exact ⟨_, ho, hhalted, hdestroyed, rfl, hreported.filter_settleOrder (by decide), rfl⟩

theorem conclude_eq_none {aim : Aim} {ticker : Ticker} {interrupted : Bool}
    (hwaits : p.status = .waiting aim ticker) :
    conclude s filter complaints p interrupted = none := by
  simp [conclude, closing?, hwaits]

section Unknown

variable (hperiod : 0 < s.options.pollInterval)
  (hunknown : s.config.replacementHealth = .unknown) (hsome : 0 < s.toReplace)
include hperiod hunknown hsome

theorem stays_of_unknown : s.Stays filter complaints where
  polls _ hdeadline := Setting.waits_of_unknown hperiod hunknown hsome hdeadline
  stops _ _ hnow hdeadline := by
    obtain ⟨hhalted, hdestroyed⟩ :=
      Setting.stopped_of_unknown hperiod hunknown hsome hnow hdeadline
    exact stops_of_halted hhalted hdestroyed

theorem simulate_eq_none : simulate s filter complaints false = none := by
  obtain ⟨_, _, _, hwaits, -⟩ :=
    Setting.waits_of_unknown hperiod hunknown hsome s.interval_le_horizon
  exact conclude_eq_none hwaits

/-- Where the filter lets the waiting pass, the interrupt comes just after the second poll, and
where it does not, there is none. -/
theorem simulate_interrupted :
    if filter.shows [s.span] s.waitNote.record then
      ∃ o, simulate s filter complaints true = some o ∧
        Stops filter complaints (s.rehearse [(2 * s.interval + 1, .stop)]) o
    else simulate s filter complaints true = none := by
  have hwait := Setting.firstWait?_of_unknown hperiod hunknown hsome filter
  split
  · rename_i hshows
    rw [if_pos hshows] at hwait
    have hlast := Setting.second_lt_horizon hperiod hsome
    have hnow : s.interval < 2 * s.interval + 1 := by omega
    have hdeadline : 2 * s.interval + 1 ≤ s.horizon := by omega
    obtain ⟨hhalted, hdestroyed⟩ :=
      Setting.stopped_of_unknown hperiod hunknown hsome hnow hdeadline
    simp only [simulate, if_true, hwait]
    exact stops_of_halted hhalted hdestroyed
  · rename_i hshows
    rw [if_neg hshows] at hwait
    simp only [simulate, if_true, hwait]
    exact simulate_eq_none hperiod hunknown hsome

end Unknown

end Outcomes

/-- What the simulator comes to in each environment that it accepts. What it reports at the end is
in the log if the filter lets it pass, as it does where no filter is given. -/
theorem outcome_of_prepare {lookup : String → Option String} {s : Setting} {filter : Log.Filter}
    {complaints : String} (hprepare : prepare lookup = .ok (s, filter, complaints)) :
    s.GivenBy lookup ∧
    (s.config.replacementHealth = .healthy ∨ s.toReplace = 0 →
      ∃ o, run lookup false = some o ∧ s.Finishes filter complaints o) ∧
    (s.config.replacementHealth = .unhealthy → 0 < s.toReplace →
      ∃ o, run lookup false = some o ∧ s.Fails filter complaints o) ∧
    (s.config.replacementHealth = .unknown → 0 < s.toReplace →
      run lookup false = none ∧ s.Stays filter complaints ∧
      if filter.shows [s.span] s.waitNote.record then
        ∃ o, run lookup true = some o ∧
          Stops filter complaints (s.rehearse [(2 * s.interval + 1, .stop)]) o
      else run lookup true = none) ∧
    (lookup "RUST_LOG" = none → lookup "FLEET_LOG_LEVEL" = none →
      ∀ spans r, filter.shows spans r = true ↔ r.level ∈ [.error, .warn, .info]) := by
  have hgiven : s.GivenBy lookup := exists_prepare_iff.1 ⟨_, _, hprepare⟩
  have hperiod := hgiven.pollInterval_pos
  have hrun (interrupt : Bool) :
      run lookup interrupt = simulate s filter complaints interrupt := by
    simp [run, hprepare]
  rw [hrun, hrun]
  refine ⟨hgiven, ?_, ?_, ?_, shows_iff_of_unset hprepare⟩
  · rintro (hhealthy | hnone)
    · obtain ⟨hdone, hdestroyed⟩ := Setting.done_of_healthy hperiod hhealthy
      exact finishes_of_done hdone hdestroyed
    · obtain ⟨hdone, hdestroyed⟩ := Setting.done_of_none hperiod hnone
      exact finishes_of_done hdone (hdestroyed.trans hnone.symm)
  · intro hunhealthy hsome
    obtain ⟨hfailed, hdestroyed⟩ := Setting.failed_of_unhealthy hperiod hunhealthy hsome
    exact fails_of_failed hfailed hdestroyed
  · intro hunknown hsome
    refine ⟨simulate_eq_none hperiod hunknown hsome, ?_, ?_⟩
    · exact stays_of_unknown hperiod hunknown hsome
    · exact simulate_interrupted hperiod hunknown hsome

namespace Sample

/-- An environment in which one of three instances is protected. -/
def lookup (health : String) : String → Option String
  | "FLEET_SIM_REPLACEMENT_HEALTH" => some health
  | "FLEET_GROUP_POLICY_LEADER_SELF_UPDATE" => some "never"
  | "FLEET_GROUP_SELF_LOGICAL_ID" => some "slot-1"
  | _ => none

def setting (health : Health) : Setting :=
  ⟨⟨3, "app:v1", "app:v2", health, "info"⟩, ⟨10000, some "slot-1", .never⟩⟩

def filter : Log.Filter := (Log.Filter.readLoosely "info").1

theorem prepare_lookup (health : Health) :
    prepare (lookup health.name) = .ok (setting health, filter, "") := by
  have hconfig : Config.load (lookup health.name) = .ok (setting health).config := by
    cases health <;> decide +kernel
  have hoptions : Options.load (lookup health.name) = .ok (setting health).options := by
    cases health <;> decide +kernel
  have hfilter : (setting health).config.filter (lookup health.name) = (filter, []) := by
    cases health <;> decide +kernel
  simp only [prepare, hconfig, hoptions, hfilter]
  rfl

theorem toReplace_setting (health : Health) : (setting health).toReplace = 2 := by
  have hother : Revision.ofSpec (Config.spec "app:v1") ≠
      Revision.ofSpec (Config.spec "app:v2") := by decide +kernel
  have hown : SelfPolicy.never = .never ∧ ∃ n < 3, some "slot-1" = some (Config.slotName n) :=
    ⟨rfl, 1, by decide, by decide⟩
  exact (if_neg hother).trans (if_pos hown)

end Sample

open Simulation.Sample in
/-- Of three instances one is protected, so two are to be replaced. -/
theorem outcome_of_prepare_protected :
    (∃ o earlier, run (lookup "healthy") false = some o ∧ o.exitCode = 0 ∧ o.complaints = "" ∧
      o.records = earlier ++
        [⟨.info, "rollout_sim", "Update finished", [("destroyed", .num (.integer 2))]⟩]) ∧
    (∃ o earlier, run (lookup "unhealthy") false = some o ∧ o.exitCode = 1 ∧
      o.complaints = "Error: instance replacement-0000 is unhealthy\n" ∧
      o.records = earlier ++ [⟨.error, "rollout_sim", "Update failed",
        [("destroyed", .num (.integer 1)),
          ("error", .str "instance replacement-0000 is unhealthy")]⟩]) ∧
    run (lookup "unknown") false = none ∧
    ∃ o, run (lookup "unknown") true = some o ∧ o.exitCode = 0 ∧ o.complaints = "" ∧
      o.records.filter tellsEnd = [⟨.info, "rollout_sim", "Update stopped before completion",
        [("destroyed", .num (.integer 1))]⟩] := by
  have hsome (health : Health) : 0 < (setting health).toReplace := by
    rw [toReplace_setting]
    decide
  obtain ⟨-, hfinishes, -, -, hshows⟩ := outcome_of_prepare (prepare_lookup .healthy)
  obtain ⟨-, -, hfails, -⟩ := outcome_of_prepare (prepare_lookup .unhealthy)
  obtain ⟨-, -, -, hstays, -⟩ := outcome_of_prepare (prepare_lookup .unknown)
  have hshows := hshows rfl rfl
  refine ⟨?_, ?_, ?_⟩
  · obtain ⟨o, ho, h⟩ := hfinishes (.inl rfl)
    obtain ⟨earlier, -, hrecords⟩ := h.reported
    rw [toReplace_setting, if_pos ((hshows _ _).2 (by decide))] at hrecords
    exact ⟨o, earlier, ho, h.exitCode_eq, h.complaints_eq, hrecords⟩
  · obtain ⟨o, ho, h⟩ := hfails rfl (hsome .unhealthy)
    obtain ⟨earlier, -, hrecords⟩ := h.reported
    rw [if_pos ((hshows _ _).2 (by decide))] at hrecords
    exact ⟨o, earlier, ho, h.exitCode_eq, h.complaints_eq, hrecords⟩
  · obtain ⟨hforever, -, hinterrupted⟩ := hstays rfl (hsome .unknown)
    rw [if_pos ((hshows _ _).2 (by simp [Setting.waitNote, Note.record]))] at hinterrupted
    obtain ⟨o, ho, h⟩ := hinterrupted
    have hreported := h.reported
    rw [if_pos ((hshows _ _).2 (by decide))] at hreported
    exact ⟨hforever, o, ho, h.exitCode_eq, h.complaints_eq, hreported⟩

end Rollout.Simulation
