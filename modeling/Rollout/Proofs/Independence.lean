import Rollout.Proofs.Agreement
import Rollout.Proofs.Gating
import Rollout.Proofs.Rehearsal

/-!
# What an update may depend on

Two updates with the same target, whose sources name the same own slot, are rehearsed in the same
way with two groups that agree: the same actions at the same times and calls, and calls that take
as long. Then the same is observed of both, so nothing depends on the health of instances that are
to be replaced, on tags and properties without a meaning, or on the rest of the source. What is
told in the log may differ, as the description of the update is part of it.
-/

namespace Rollout

open Update

/-- Nothing has happened to a group yet but that something was said about healths. -/
structure Group.New (g : Group) : Prop where
  destroyed : g.destroyed = []
  serial : g.serial = 0
  listCalls : g.listCalls = 0
  failing : g.failing = false

namespace Group.Agree

variable {s : Settings} {asked ids : List String} {g h : Group}

theorem ask (hgh : g.Agree s asked h) (hids : ∀ id ∈ ids, g.health id = h.health id) :
    g.Agree s ids h :=
  { hgh with asked := hids }

theorem wanted (hgh : g.Agree s asked h) :
    (s.wanted g.members).map Instance.face = (s.wanted h.members).map Instance.face := by
  rw [Face.map_wanted, Face.map_wanted, hgh.faces]

theorem length_wanted (hgh : g.Agree s asked h) :
    (s.wanted g.members).length = (s.wanted h.members).length := by
  rw [← List.length_map Instance.face, hgh.wanted, List.length_map]

theorem list (hgh : g.Agree s asked h) : g.list.2.Agree s asked h.list.2 := { hgh with }

theorem answer_list (hgh : g.Agree s asked h) :
    ((g.answer .list).1 = .error listFailure ∧ (h.answer .list).1 = .error listFailure) ∨
      ((g.answer .list).1 = .ok g.members ∧ (h.answer .list).1 = .ok h.members) := by
  simp only [Group.answer, Group.list, hgh.failing]
  cases h.failing with
  | true => exact .inl ⟨rfl, rfl⟩
  | false => exact .inr ⟨rfl, rfl⟩

end Group.Agree

namespace Update

/-- What is observed of a call and its answer. -/
inductive Seen where
  | list (answer : Except (List String) (List Face))
  | health (id : String) (answer : Health)
  | destroy (id : String) (reason : Reason)

def Call.seen : (call : Call) → call.Answer → Seen
  | .list, answer => .list (answer.map (List.map Instance.face))
  | .health i, answer => .health i.id answer
  | .destroy i reason, _ => .destroy i.id reason

/-- The ids of which a stage of an update asks the health, and then its poll. -/
def Stage.asked : Stage → List String
  | .probe _ _ _ current rest => (current :: rest).map Instance.id
  | _ => []

def Status.asked : Status → List String
  | .calling stage => stage.asked
  | _ => []

/-- Stages that only differ in what is not seen of instances. -/
inductive Stage.Like : Stage → Stage → Prop where
  | survey : Like .survey .survey
  | poll (aim : Aim) (ticker : Ticker) : Like (.poll aim ticker) (.poll aim ticker)
  | probe (aim : Aim) (ticker : Ticker) (tally : Tally) {current other : Instance}
      {rest others : List Instance}
      (faces : (current :: rest).map Instance.face = (other :: others).map Instance.face) :
      Like (.probe aim ticker tally current rest) (.probe aim ticker tally other others)
  | choose (expected : Nat) : Like (.choose expected) (.choose expected)
  | destroy (expected : Nat) {victim other : Instance} (face : victim.face = other.face) :
      Like (.destroy expected victim) (.destroy expected other)

inductive Status.Like : Status → Status → Prop where
  | waiting (aim : Aim) (ticker : Ticker) : Like (.waiting aim ticker) (.waiting aim ticker)
  | calling {a b : Stage} (stages : a.Like b) : Like (.calling a) (.calling b)
  | ended (ending : Ending) : Like (.ended ending) (.ended ending)

/-- Plans with the same target, whose sources name the same own slot. -/
structure Plan.Like (p q : Plan) : Prop where
  target : p.target = q.target
  own : p.source.selfSlot = q.source.selfSlot

variable {p q : Plan} {a b : Stage} {g h : Group}

theorem Stage.Like.kind_eq (hab : a.Like b) : a.call.kind = b.call.kind := by
  cases hab <;> rfl

theorem like_await (period now : Nat) (aim : Aim) :
    (await period now aim).Like (await period now aim) := by
  unfold await
  split
  · exact .waiting aim _
  · exact .ended .noPeriod

theorem asked_await (period now : Nat) (aim : Aim) : (await period now aim).asked = [] := by
  unfold await
  split <;> rfl

section Plans

variable (hpq : p.Like q)
include hpq

theorem threshold_eq (aim : Aim) : aim.threshold p = aim.threshold q := by
  cases aim with
  | wait threshold => rfl
  | replace expected => rw [Aim.threshold, Aim.threshold, hpq.target]

theorem like_settle (aim : Aim) (ticker : Ticker) (tally : Tally) :
    (p.settle aim ticker tally).status.Like (q.settle aim ticker tally).status := by
  simp only [Plan.settle, threshold_eq hpq aim]
  split
  · cases aim with
    | wait threshold => exact .ended .done
    | replace expected => exact .calling (.choose expected)
  · exact .waiting aim ticker

theorem like_pollOn (aim : Aim) (ticker : Ticker) (tally : Tally) {rest others : List Instance}
    (h : rest.map Instance.face = others.map Instance.face) :
    (p.pollOn aim ticker tally rest).status.Like (q.pollOn aim ticker tally others).status := by
  cases rest with
  | nil =>
      obtain rfl : others = [] := List.map_eq_nil_iff.1 h.symm
      exact like_settle hpq aim ticker tally
  | cons current rest =>
      cases others with
      | nil => simp at h
      | cons other others => exact .calling (.probe aim ticker tally h)

theorem like_proceed (expected : Nat) {snapshot others : List Instance}
    (h : snapshot.map Instance.face = others.map Instance.face) :
    (p.proceed expected snapshot).status.Like (q.proceed expected others).status := by
  have horder : (p.source.destroyOrder (p.target.unwanted snapshot)).map Instance.face =
      (q.source.destroyOrder (q.target.unwanted others)).map Instance.face := by
    rw [Face.map_destroyOrder, Face.map_destroyOrder, Face.map_unwanted, Face.map_unwanted, h,
      hpq.target, hpq.own]
  unfold Plan.proceed
  cases hp : p.source.destroyOrder (p.target.unwanted snapshot) with
  | nil =>
      rw [hp] at horder
      rw [List.map_eq_nil_iff.1 horder.symm]
      exact .ended .done
  | cons victim rest =>
      rw [hp] at horder
      obtain ⟨other, rest', hq, hface, -⟩ := List.map_eq_cons_iff.1 horder.symm
      rw [hq]
      exact .calling (.destroy expected hface.symm)

end Plans

theorem asked_settle (p : Plan) (aim : Aim) (ticker : Ticker) (tally : Tally) :
    (p.settle aim ticker tally).status.asked = [] := by
  unfold Plan.settle
  split
  · cases aim <;> rfl
  · rfl

theorem asked_pollOn (p : Plan) (aim : Aim) (ticker : Ticker) (tally : Tally)
    (rest : List Instance) :
    (p.pollOn aim ticker tally rest).status.asked = rest.map Instance.id := by
  cases rest with
  | nil => exact asked_settle p aim ticker tally
  | cons current rest => rfl

theorem asked_proceed (p : Plan) (expected : Nat) (snapshot : List Instance) :
    (p.proceed expected snapshot).status.asked = [] := by
  unfold Plan.proceed
  split <;> rfl

theorem like_wake (p q : Plan) (now : Nat) (stopped : Bool) (aim : Aim) (ticker : Ticker) :
    (p.wake now stopped aim ticker = none ∧ q.wake now stopped aim ticker = none) ∨
      ∃ move other, p.wake now stopped aim ticker = some move ∧
        q.wake now stopped aim ticker = some other ∧ move.status.Like other.status ∧
        move.status.asked = [] := by
  unfold Plan.wake
  cases stopped with
  | true => exact .inr ⟨_, _, rfl, rfl, .ended (.failed .halted), rfl⟩
  | false =>
      by_cases hdue : ticker.due ≤ now
      · simp only [if_pos hdue]
        exact .inr ⟨_, _, rfl, rfl, .calling (.poll aim (ticker.advance now)), rfl⟩
      · simp [hdue]

/-- When their calls are answered by groups that agree, two updates go on alike. -/
theorem like_resume_answer (hpq : p.Like q) (hab : a.Like b)
    (hgh : g.Agree p.target a.asked h) (period now : Nat) :
    a.call.seen (g.answer a.call).1 = b.call.seen (h.answer b.call).1 ∧
      (p.resume period now a (g.answer a.call).1).status.Like
        (q.resume period now b (h.answer b.call).1).status ∧
      (g.answer a.call).2.Agree p.target
        (p.resume period now a (g.answer a.call).1).status.asked (h.answer b.call).2 := by
  have hlist := hgh.list
  have hseen : Call.list.seen (.ok g.members) = Call.list.seen (.ok h.members) :=
    congrArg (Seen.list ∘ Except.ok) hgh.faces
  cases hab with
  | survey =>
      rcases hgh.answer_list with ⟨hg, hh⟩ | ⟨hg, hh⟩
      · rw [hg, hh]
        exact ⟨rfl, .ended _, hlist⟩
      · rw [hg, hh]
        refine ⟨hseen, ?_, hlist.ask ?_⟩
        · simp only [Plan.resume, ← hpq.target, ← hgh.length_wanted]
          exact like_await ..
        · simp [Plan.resume, asked_await]
  | poll aim ticker =>
      rcases hgh.answer_list with ⟨hg, hh⟩ | ⟨hg, hh⟩
      · rw [hg, hh]
        exact ⟨rfl, .ended _, hlist⟩
      · rw [hg, hh]
        refine ⟨hseen, ?_, hlist.ask ?_⟩
        · simp only [Plan.resume, ← hpq.target]
          exact like_pollOn hpq aim ticker {} hgh.wanted
        · -- From here on the health of what was listed is asked for.
          simp only [Plan.resume, asked_pollOn, List.forall_mem_map]
          exact hgh.healths
  | @probe aim ticker tally current other rest others faces =>
      obtain ⟨hface, hfaces⟩ := List.cons.inj faces
      have hid : current.id = other.id := congrArg Face.id hface
      have hhealth : g.health current.id = h.health other.id := by
        rw [← hid]
        exact hgh.asked current.id List.mem_cons_self
      have hrest : ∀ id ∈ rest.map Instance.id, g.health id = h.health id :=
        fun id h => hgh.asked id (List.mem_cons_of_mem _ h)
      simp only [Group.answer, hhealth]
      refine ⟨by rw [Call.seen, Call.seen, hid], ?_⟩
      cases h.health other.id with
      | healthy =>
          refine ⟨like_pollOn hpq aim ticker _ hfaces, hgh.ask ?_⟩
          simpa only [Plan.resume, asked_pollOn] using hrest
      | unhealthy =>
          simp only [Plan.resume, Move.fail, hid]
          exact ⟨.ended _, hgh.ask (by simp [Status.asked])⟩
      | unknown =>
          refine ⟨like_pollOn hpq aim ticker _ hfaces, hgh.ask ?_⟩
          simpa only [Plan.resume, asked_pollOn] using hrest
  | choose expected =>
      rcases hgh.answer_list with ⟨hg, hh⟩ | ⟨hg, hh⟩
      · rw [hg, hh]
        exact ⟨rfl, .ended _, hlist⟩
      · rw [hg, hh]
        refine ⟨hseen, like_proceed hpq expected hgh.faces, hlist.ask ?_⟩
        simp [Plan.resume, asked_proceed]
  | @destroy expected victim other hface =>
      have hid : victim.id = other.id := congrArg Face.id hface
      simp only [Group.answer, Plan.resume, Call.seen, hid]
      refine ⟨trivial, like_await .., ?_⟩
      exact (hgh.destroy other.id .rollingUpdate).ask (by simp [asked_await])

end Update

namespace Rehearsal

def Entry.seen? : Entry → Option (Nat × Seen)
  | .call time made answer => some (time, made.seen answer)
  | .note _ _ => none

def seenIn (journal : Array Entry) : List (Nat × Seen) := journal.toList.filterMap Entry.seen?

def Play.seen (p : Play) : List (Nat × Seen) := seenIn p.journal

def World.destroyed (w : World) : List (String × Reason) :=
  match w.backend with
  | .group g => g.destroyed
  | .script _ => []

/-- Rehearsals of like updates, in which the others do the same and calls take as long. -/
structure Setup.Like (a b : Setup) : Prop where
  plan : a.plan.Like b.plan
  delay : a.delay = b.delay
  hooks : a.hooks = b.hooks

theorem Setup.Like.actionsAt_eq {a b : Setup} (h : a.Like b) (kind : Call.Kind) (number : Nat)
    (moment : Moment) : a.actionsAt kind number moment = b.actionsAt kind number moment := by
  rw [Setup.actionsAt, Setup.actionsAt, h.hooks]

structure World.Like (s : Settings) (asked : List String) (w v : World) : Prop where
  groups : ∃ g h : Group, w.backend = .group g ∧ v.backend = .group h ∧ g.Agree s asked h
  stopped : w.stopped = v.stopped
  calls : w.calls = v.calls

theorem World.Like.ask {s : Settings} {asked ids : List String} {w v : World}
    (h : w.Like s asked v) (hids : ∀ id, id ∉ ids) : w.Like s ids v := by
  obtain ⟨g, g', hg, hg', hagree⟩ := h.groups
  exact { h with groups := ⟨g, g', hg, hg', hagree.ask fun id hid => absurd hid (hids id)⟩ }

theorem World.Like.act {s : Settings} {asked : List String} {w v : World} (h : w.Like s asked v)
    (p q : Plan) (action : Action) : (w.act p action).1.Like s asked (v.act q action).1 := by
  cases action with
  | stop => exact ⟨h.groups, rfl, h.calls⟩
  | change c =>
      obtain ⟨g, g', hg, hg', hagree⟩ := h.groups
      refine ⟨⟨(g.apply c).1, (g'.apply c).1, ?_, ?_, hagree.apply c⟩, h.stopped, h.calls⟩
      · simp [World.act, Backend.apply, hg]
      · simp [World.act, Backend.apply, hg']

theorem World.Like.actAll {s : Settings} {asked : List String} (p q : Plan)
    {actions others : List Action} (heq : actions = others) :
    ∀ {w v : World}, w.Like s asked v →
      (w.actAll p actions).1.Like s asked (v.actAll q others).1 := by
  subst heq
  induction actions with
  | nil =>
      intro w v h
      exact h
  | cons action rest ih =>
      intro w v h
      exact ih (h.act p q action)

theorem World.Like.destroyed_eq {s : Settings} {asked : List String} {w v : World}
    (h : w.Like s asked v) : w.destroyed = v.destroyed := by
  obtain ⟨g, g', hg, hg', hagree⟩ := h.groups
  rw [World.destroyed, World.destroyed, hg, hg']
  exact hagree.destroyed

namespace Play

/-- Two rehearsals stand alike, and the same was observed of both. -/
structure Like (s : Settings) (p q : Play) : Prop where
  now : p.now = q.now
  world : p.world.Like s p.status.asked q.world
  status : p.status.Like q.status
  begun : p.begun = q.begun
  agenda : p.agenda = q.agenda
  seen : p.seen = q.seen

variable {s : Settings} {p q : Play} {a b : Setup}

@[simp] theorem seen_tell (p : Play) (notes : List Note) : (p.tell notes).seen = p.seen := by
  simp [seen, seenIn, tell, List.filterMap_map, Function.comp_def, Entry.seen?]

@[simp] theorem seen_act (p : Play) (plan : Plan) (actions : List Action) :
    (p.act plan actions).seen = p.seen :=
  seen_tell p _

@[simp] theorem seen_enter (p : Play) (move : Move) : (p.enter move).seen = p.seen :=
  seen_tell p _

theorem seen_complete (p : Play) (setup : Setup) (period : Nat) (stage : Stage) (since : Nat) :
    (p.complete setup period stage since).seen = p.seen ++
      [(since, stage.call.seen (p.world.backend.answer p.world.calls.list stage.call).1)] := by
  unfold complete
  simp only [seen_enter, seen_act]
  simp only [seen, seenIn, Array.toList_push, List.filterMap_append]
  congr 1
  exact seen_tell p _

theorem Like.act (h : p.Like s q) (plan other : Plan) {actions others : List Action}
    (heq : actions = others) : (p.act plan actions).Like s (q.act other others) where
  now := h.now
  world := h.world.actAll plan other heq
  status := h.status
  begun := h.begun
  agenda := h.agenda
  seen := by simpa using h.seen

theorem Like.enter (h : p.Like s q) {move other : Move} (hstatus : move.status.Like other.status)
    (hworld : p.world.Like s move.status.asked q.world) :
    (p.enter move).Like s (q.enter other) where
  now := h.now
  world := hworld
  status := hstatus
  begun := rfl
  agenda := h.agenda
  seen := by simpa using h.seen

theorem Like.begin (h : p.Like s q) (hab : a.Like b) {kind other : Call.Kind}
    (hkind : kind = other) : (p.begin a kind).Like s (q.begin b other) := by
  subst hkind
  have hcalls : p.world.calls.bump kind = q.world.calls.bump kind := by rw [h.world.calls]
  have hcounted : Like s
      { p with world := { p.world with calls := p.world.calls.bump kind } }
      { q with world := { q.world with calls := q.world.calls.bump kind } } :=
    { h with world := { h.world with calls := hcalls } }
  have hactions : a.actionsAt kind ((p.world.calls.bump kind).get kind) .before =
      b.actionsAt kind ((q.world.calls.bump kind).get kind) .before := by
    rw [hab.actionsAt_eq, hcalls]
  have hbegun : (⟨p.now, p.now + min (a.delay kind) longestWait⟩ : Begun) =
      ⟨q.now, q.now + min (b.delay kind) longestWait⟩ := by
    rw [h.now, hab.delay]
  exact { hcounted.act a.plan b.plan hactions with begun := congrArg some hbegun }

theorem Like.complete (h : p.Like a.plan.target q) (hab : a.Like b) (period : Nat)
    {stage other : Stage} (hp : p.status = .calling stage) (hq : q.status = .calling other)
    (since : Nat) :
    (p.complete a period stage since).Like a.plan.target (q.complete b period other since) := by
  obtain ⟨g, g', hg, hg', hagree⟩ := h.world.groups
  have hstages : stage.Like other := by
    have hstatus := h.status
    rw [hp, hq] at hstatus
    cases hstatus with
    | calling stages => exact stages
  rw [hp] at hagree
  obtain ⟨hseen, hgoes, hafter⟩ := like_resume_answer hab.plan hstages hagree period p.now
  obtain ⟨hanswer, hbackend⟩ := Backend.answer_group p.world.calls.list g stage.call
  obtain ⟨hanswer', hbackend'⟩ := Backend.answer_group q.world.calls.list g' other.call
  rw [← hg] at hanswer hbackend
  rw [← hg'] at hanswer' hbackend'
  rw [← hanswer, ← hanswer'] at hseen hgoes
  rw [← hanswer] at hafter
  have hanswered : World.Like a.plan.target _
      { p.world with backend := (p.world.backend.answer p.world.calls.list stage.call).2.1 }
      { q.world with backend := (q.world.backend.answer q.world.calls.list other.call).2.1 } :=
    ⟨⟨_, _, hbackend, hbackend', hafter⟩, h.world.stopped, h.world.calls⟩
  have hactions : a.actionsAt stage.call.kind (p.world.calls.get stage.call.kind) .after =
      b.actionsAt other.call.kind (q.world.calls.get other.call.kind) .after := by
    rw [hab.actionsAt_eq, hstages.kind_eq, h.world.calls]
  have hseen' : (p.complete a period stage since).seen = (q.complete b period other since).seen := by
    rw [seen_complete, seen_complete, h.seen, hseen]
  refine ⟨h.now, hanswered.actAll a.plan b.plan hactions, ?_, rfl, h.agenda, hseen'⟩
  change (a.plan.resume period p.now _ _).status.Like (b.plan.resume period q.now _ _).status
  rw [← h.now]
  exact hgoes

inductive Next.Like (s : Settings) : Next → Next → Prop where
  | ended : Like s .over .over
  | now {p q : Play} (plays : p.Like s q) : Like s (.now p) (.now q)
  | later (time : Nat) : Like s (.later time) (.later time)

theorem Like.next (h : p.Like a.plan.target q) (hab : a.Like b) (period : Nat) :
    Next.Like a.plan.target (p.next a period) (q.next b period) := by
  have hstatus := h.status
  generalize hp : p.status = sp at hstatus
  generalize hq : q.status = sq at hstatus
  unfold Play.next
  rw [hp, hq]
  cases hstatus with
  | ended ending => exact .ended
  | waiting aim ticker =>
      simp only [← h.now, ← h.world.stopped]
      rcases like_wake a.plan b.plan p.now p.world.stopped aim ticker with
        ⟨hnone, hnone'⟩ | ⟨move, other, hmove, hother, hlike, hasked⟩
      · rw [hnone, hnone']
        exact .later ticker.due
      · rw [hmove, hother]
        exact .now (h.enter hlike (h.world.ask (by simp [hasked])))
  | @calling stage other stages =>
      simp only [← h.now, ← h.begun]
      cases p.begun with
      | none => exact .now (h.begin hab stages.kind_eq)
      | some begun =>
          by_cases hready : begun.ready ≤ p.now
          · simp only [if_pos hready]
            exact .now (h.complete hab period hp hq begun.since)
          · simp only [if_neg hready]
            exact .later begun.ready

theorem Like.step (h : p.Like a.plan.target q) (hab : a.Like b) (period deadline : Nat) :
    (p.step a period deadline = none ∧ q.step b period deadline = none) ∨
      ∃ p' q', p.step a period deadline = some p' ∧ q.step b period deadline = some q' ∧
        p'.Like a.plan.target q' := by
  have hdue : p.due? = q.due? := by rw [due?, due?, h.agenda, h.now]
  unfold Play.step
  rw [← hdue]
  cases p.due? with
  | some due =>
      obtain ⟨action, agenda⟩ := due
      have hrest : Like a.plan.target { p with agenda } { q with agenda } := { h with agenda := rfl }
      exact .inr ⟨_, _, rfl, rfl, hrest.act a.plan b.plan rfl⟩
  | none =>
      have hnext := h.next hab period
      generalize p.next a period = next at hnext
      generalize q.next b period = other at hnext
      cases hnext with
      | ended => exact .inl ⟨rfl, rfl⟩
      | now plays => exact .inr ⟨_, _, rfl, rfl, plays⟩
      | later time =>
          have htime : p.nextTime deadline time = q.nextTime deadline time := by
            rw [nextTime, nextTime, h.agenda]
          simp only [← h.now, ← htime]
          by_cases hdeadline : deadline ≤ p.now
          · simp [hdeadline]
          · simp only [if_neg hdeadline]
            exact .inr ⟨_, _, rfl, rfl, { h with now := rfl }⟩

theorem Like.finish (h : p.Like a.plan.target q) (hab : a.Like b) (period deadline : Nat) :
    (p.finish a period deadline).Like a.plan.target (q.finish b period deadline) := by
  fun_induction Play.finish p a period deadline generalizing q with
  | case1 p hnone =>
      rcases h.step hab period deadline with ⟨-, hq⟩ | ⟨p', q', hp, -, -⟩
      · rw [finish_of_step_eq_none hq]
        exact h
      · simp [hnone] at hp
  | case2 p p' hsome ih =>
      rcases h.step hab period deadline with ⟨hp, -⟩ | ⟨p'', q', hp, hq, h'⟩
      · simp [hsome] at hp
      · rw [finish_of_step hq]
        obtain rfl : p' = p'' := Option.some.inj (hsome.symm.trans hp)
        exact ih h'

theorem Like.start {w v : World} {status : Status} (hworld : w.Like s [] v)
    (hstatus : status.Like status) (hasked : status.asked = []) (agenda : List (Nat × Action)) :
    (Play.start w status agenda).Like s (Play.start v status agenda) where
  now := rfl
  world := hworld.ask (by simp [Play.start, hasked])
  status := hstatus
  begun := rfl
  agenda := rfl
  seen := rfl

end Play

/-! ## Sessions -/

/-- What is observed of a step of a session, apart from what it tells. -/
structure Observation where
  ending? : Option Ending
  elapsed : Nat
  calls : List (Nat × Seen)
  destroyed : List (String × Reason)

def Report.observed (r : Report) : Observation where
  ending? :=
    match r.result with
    | .ended ending => some ending
    | _ => none
  elapsed := r.elapsed
  calls := seenIn r.journal
  destroyed := r.world.destroyed

variable {s : Settings} {w v : World} {a b : Setup}

theorem Play.Like.report {p q : Play} (h : p.Like s q) :
    p.report.observed = q.report.observed ∧ p.report.world.Like s [] q.report.world := by
  refine ⟨?_, h.world.ask (by simp)⟩
  have hstatus := h.status
  have hseen : seenIn p.journal = seenIn q.journal := h.seen
  unfold Report.observed Play.report
  simp only [h.now, hseen, h.world.destroyed_eq]
  generalize p.status = sp at hstatus
  generalize q.status = sq at hstatus
  cases hstatus <;> rfl

theorem World.Like.perform (h : w.Like a.plan.target [] v) (hab : a.Like b) (step : Step) :
    (a.perform w step).observed = (b.perform v step).observed ∧
      (a.perform w step).world.Like a.plan.target [] (b.perform v step).world := by
  cases step with
  | run period deadline agenda =>
      have hstart := Play.Like.start h (.calling .survey) rfl agenda
      exact (hstart.finish hab period deadline).report
  | wait threshold period deadline agenda =>
      have hstart := Play.Like.start h (like_await period 0 (.wait threshold))
        (asked_await period 0 _) agenda
      exact (hstart.finish hab period deadline).report
  | act action =>
      have hafter := h.act a.plan b.plan action
      refine ⟨?_, hafter⟩
      have hnotes (notes : List Note) : seenIn (notes.map (Entry.note 0)).toArray = [] := by
        simp [seenIn, List.filterMap_map, Function.comp_def, Entry.seen?]
      simp only [Report.observed, Setup.perform, hnotes, hafter.destroyed_eq]
  | explain =>
      refine ⟨?_, h⟩
      simp only [Report.observed, Setup.perform, h.destroyed_eq]

theorem World.Like.performAll (hab : a.Like b) (steps : List Step) :
    ∀ {w v : World}, w.Like a.plan.target [] v →
      (a.performAll w steps).map Report.observed = (b.performAll v steps).map Report.observed := by
  induction steps with
  | nil =>
      intro w v _
      rfl
  | cons step rest ih =>
      intro w v h
      obtain ⟨hobserved, hworld⟩ := h.perform hab step
      rw [Setup.performAll, Setup.performAll, List.map_cons, List.map_cons, hobserved, ih hworld]

/-- Two sessions with new groups that an update cannot tell apart are observed to be the same. -/
theorem observed_performAll {p q : Plan} {g h : Group} (htarget : p.target = q.target)
    (hown : p.source.selfSlot = q.source.selfSlot) (hg : g.New) (hh : h.New)
    (hfaces : g.members.map Instance.face = h.members.map Instance.face)
    (hreplacement : g.replacement = h.replacement)
    (hfresh : g.replacementHealth = h.replacementHealth)
    (hhealths : ∀ i ∈ p.target.wanted g.members, g.health i.id = h.health i.id)
    (delay : Call.Kind → Nat) (hooks : List Hook) (steps : List Step) :
    ((Setup.mk p delay hooks).performAll { backend := .group g } steps).map Report.observed =
      ((Setup.mk q delay hooks).performAll { backend := .group h } steps).map Report.observed := by
  have hsetups : (Setup.mk p delay hooks).Like (Setup.mk q delay hooks) :=
    ⟨⟨htarget, hown⟩, rfl, rfl⟩
  have hagree : g.Agree p.target [] h :=
    { faces := hfaces, healths := hhealths, asked := by simp, replacement := hreplacement,
      replacementHealth := hfresh, destroyed := hg.destroyed.trans hh.destroyed.symm,
      serial := hg.serial.trans hh.serial.symm, failing := hg.failing.trans hh.failing.symm }
  exact World.Like.performAll hsetups steps ⟨⟨g, h, rfl, rfl, hagree⟩, rfl, rfl⟩

namespace Sample

open Update.Sample

/-- The unhealthy one of two instances is to be replaced, and has the id of the replacement. -/
def squatted : Group :=
  { members := [new "a", old "replacement-0000"], replacement := some "r2"
    healths := (∅ : Dictionary Health).insert "replacement-0000" .unhealthy
    replacementHealth := .unknown }

/-- The same two with a tag and properties of no meaning, and nothing said about their health. -/
def painted : Group :=
  { squatted with
    members := [(new "a").withTag "team" "blue", (old "replacement-0000").withProperties .null]
    healths := ∅ }

def again : Plan :=
  { plan with description := "again", source := { revision := "r0", size := 7, policy := .never } }

end Sample

open Sample in
/-- The replacement takes the id of the instance that it replaces, and others meddle. -/
theorem observed_performAll_squatted :
    let steps := [Step.run 10 100 [(15, .change (.setHealthOf "r2" .unknown)),
      (35, .change (.setHealth "replacement-0000" .healthy)), (60, .stop)]]
    squatted.New ∧ painted.New ∧
      squatted.members.map Instance.face = painted.members.map Instance.face ∧
      (∀ i ∈ plan.target.wanted squatted.members,
        squatted.health i.id = painted.health i.id) ∧
      ((Setup.mk plan (fun _ => 0) []).performAll
          { backend := .group squatted } steps).map Report.observed =
        ((Setup.mk again (fun _ => 0) []).performAll
          { backend := .group painted } steps).map Report.observed := by
  intro steps
  have hnew : squatted.New := ⟨rfl, rfl, rfl, rfl⟩
  have hpainted : painted.New := ⟨rfl, rfl, rfl, rfl⟩
  have hfaces : squatted.members.map Instance.face = painted.members.map Instance.face := by
    decide
  have hwanted : plan.target.wanted squatted.members = [new "a"] := rfl
  have hhealths : ∀ i ∈ plan.target.wanted squatted.members,
      squatted.health i.id = painted.health i.id := by
    rw [hwanted]
    simpa using (by decide : squatted.health (new "a").id = painted.health (new "a").id)
  have htarget : plan.target = again.target := rfl
  have hown : plan.source.selfSlot = again.source.selfSlot := rfl
  exact ⟨hnew, hpainted, hfaces, hhealths,
    observed_performAll htarget hown hnew hpainted hfaces rfl rfl hhealths _ _ steps⟩

end Rehearsal

end Rollout
