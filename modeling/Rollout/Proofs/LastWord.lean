import Mathlib.Data.List.Induction
import Rollout.Proofs.Agreement
import Rollout.Proofs.History

/-!
# The last word on a health

How healthy an instance is said to be is what the latest word of the history says that has its id.
Words are what is said of one id or of all bearers of a revision, the removal of a member, and the
arrival of a replacement; a replacement arrives in the health in force, which is what was said last
of its revision. No word is in a listing, in a question, or in a destroy that finds no member.
-/

namespace Rollout.Group

/-- What an event of a history says about healths: all these ids have this health from now on. -/
structure Word where
  ids : List String
  health : Health
  deriving DecidableEq, Repr

/-- What an operation says about the health of replacements to come. -/
def Op.forReplacements? (replacement : Option Revision) : Op → Option Health
  | .change (.setHealthOf revision said) =>
    if replacement = some revision then some said else none
  | _ => none

/-- The health in which a replacement is made after a history. -/
def healthInForce (start : Group) (earlier : List Op) : Health :=
  (earlier.filterMap (Op.forReplacements? start.replacement)).getLast?.getD start.replacementHealth

/-- The words of an operation, where replacements are made in the health `fresh`. -/
def words (g : Group) (fresh : Health) : Op → List Word
  | .change (.setHealth id health) => [⟨[id], health⟩]
  | .change (.setHealthOf revision health) =>
    [⟨(g.members.filter (Instance.hasRevision revision)).map Instance.id, health⟩]
  | .change (.destroy id _) =>
    match g.members.find? fun i => i.id == id with
    | none => []
    | some removed => [⟨[id], .healthy⟩, ⟨(g.successors removed).map Instance.id, fresh⟩]
  | .change (.setFailing _) => []
  | .list => []
  | .health _ => []

/-- The words of the operations that follow on earlier ones. -/
def wordsAfter (start : Group) (earlier : List Op) : List Op → List Word
  | [] => []
  | op :: later =>
    (start.performAll earlier).words (start.healthInForce earlier) op ++
      start.wordsAfter (earlier ++ [op]) later

/-- What the latest of the words that have an id says. -/
def lastWord (id : String) (ws : List Word) : Health :=
  ((ws.filter fun w => id ∈ w.ids).getLast?.map Word.health).getD .healthy

variable {g start : Group} {id : String}

theorem lastWord_concat (id : String) (ws : List Word) (w : Word) :
    lastWord id (ws ++ [w]) = if id ∈ w.ids then w.health else lastWord id ws := by
  by_cases h : id ∈ w.ids <;> simp [lastWord, h]

theorem wordsAfter_concat (start : Group) (earlier later : List Op) (op : Op) :
    start.wordsAfter earlier (later ++ [op]) = start.wordsAfter earlier later ++
      (start.performAll (earlier ++ later)).words (start.healthInForce (earlier ++ later)) op := by
  induction later generalizing earlier with
  | nil => simp [wordsAfter]
  | cons first later ih =>
      simp only [List.cons_append, wordsAfter, List.append_assoc]
      rw [ih]
      simp

theorem replacementHealth_perform (g : Group) (op : Op) :
    (g.perform op).replacementHealth =
      (op.forReplacements? g.replacement).getD g.replacementHealth := by
  cases op with
  | change c =>
      cases c with
      | setHealth id health => rfl
      | setHealthOf revision health =>
          by_cases h : g.replacement = some revision <;>
            simp [perform, apply, setHealthOf, Op.forReplacements?, h]
      | setFailing failing => rfl
      | destroy id reason =>
          rcases destroy_cases g id reason with ⟨-, heq⟩ | ⟨_, removed, _, -, -, -, -, heq⟩
          · simp [perform, apply, heq, Op.forReplacements?]
          · simp only [perform, apply, heq, Op.forReplacements?]
            split <;> rfl
  | list => rfl
  | health id => rfl

theorem replacementHealth_performAll (start : Group) (ops : List Op) :
    (start.performAll ops).replacementHealth = start.healthInForce ops := by
  induction ops using List.reverseRecOn with
  | nil => rfl
  | append_singleton ops op ih =>
      rw [performAll_concat, replacementHealth_perform, replacement_performAll, ih, healthInForce,
        healthInForce, List.filterMap_append]
      cases h : op.forReplacements? start.replacement <;> simp [h]

/-- One operation leaves each id with the last word on it. -/
theorem health_perform {earlier : List Word} (h : g.health id = lastWord id earlier) (op : Op) :
    (g.perform op).health id = lastWord id (earlier ++ g.words g.replacementHealth op) := by
  cases op with
  | change c =>
      cases c with
      | setHealth other said =>
          rw [perform, apply, health_setHealth, words, lastWord_concat, h]
          simp
      | setHealthOf revision said =>
          rw [perform, apply, health_setHealthOf, words, lastWord_concat, h]
      | setFailing failing =>
          rw [words, List.append_nil]
          exact h
      | destroy other reason =>
          have hword : lastWord id (earlier ++ [⟨[other], .healthy⟩]) =
              (g.remove other reason).health id := by
            rw [lastWord_concat, health_remove, h]
            simp
          cases hfind : g.members.find? fun i => i.id == other with
          | none => simp [perform, apply, destroy, words, hfind, h]
          | some removed =>
              simp only [perform, apply, destroy, words, hfind]
              rw [List.append_cons, lastWord_concat, hword]
              cases hreplacement : g.replacement with
              | none => simp [successors, hreplacement]
              | some revision =>
                  have hfresh := health_replace (g.remove other reason) removed revision id
                  simp only [successors, hreplacement, List.map_cons, List.map_nil,
                    List.mem_singleton, Group.id_replacementOf]
                  exact hfresh
  | list | health other =>
      rw [words, List.append_nil]
      exact h

/-- Every id is as healthy as the latest word on it says, and healthy where there is none. -/
theorem health_eq_lastWord (members : List Instance) (replacement : Option Revision)
    (initial : Health) (ops : List Op) (id : String) :
    ((ofMembers members replacement initial).performAll ops).health id =
      lastWord id ((ofMembers members replacement initial).wordsAfter [] ops) := by
  induction ops using List.reverseRecOn with
  | nil => rfl
  | append_singleton ops op ih =>
      rw [performAll_concat, wordsAfter_concat, List.nil_append, ← replacementHealth_performAll]
      exact health_perform ih op

/-- What was said of a replacement before it came does not outlast its arrival. -/
example :
    let start := ofMembers [Instance.ofId "a"] (some "r2") .unknown
    let ops : List Op := [.change (.setHealth "replacement-0000" .unhealthy),
      .change (.setHealthOf "r1" .unhealthy), .change (.destroy "a" .manual), .list]
    start.wordsAfter [] ops = [⟨["replacement-0000"], .unhealthy⟩, ⟨[], .unhealthy⟩,
      ⟨["a"], .healthy⟩, ⟨["replacement-0000"], .unknown⟩] := by decide

end Rollout.Group
