import Rollout.Proofs.Canonical

/-!
# No key is left twice

A text may give a key again, but the value that is read from it has each key once, in every object
at any depth.
-/

namespace Rollout.Json

theorem keys_put (members : List (String × Json)) (key : String) (value : Json) :
    (put members key value).map Prod.fst =
      if key ∈ members.map Prod.fst then members.map Prod.fst
      else members.map Prod.fst ++ [key] := by
  induction members with
  | nil => rfl
  | cons m rest ih =>
      unfold put
      by_cases hkey : m.1 = key
      · simp [hkey]
      · rw [if_neg hkey, List.map_cons, ih]
        simp only [List.map_cons, List.mem_cons, Ne.symm hkey, false_or]
        split <;> simp

theorem nodup_put {members : List (String × Json)} (h : (members.map Prod.fst).Nodup)
    (key : String) (value : Json) : ((put members key value).map Prod.fst).Nodup := by
  rw [keys_put]
  split
  · exact h
  · rename_i hnew
    refine List.nodup_append.2 ⟨h, by simp, ?_⟩
    rintro k hk _ hkey rfl
    obtain rfl := List.mem_singleton.1 hkey
    exact hnew hk

theorem mem_put {members : List (String × Json)} {key : String} {value : Json}
    {m : String × Json} (h : m ∈ put members key value) : m = (key, value) ∨ m ∈ members := by
  induction members with
  | nil => exact .inl (List.mem_singleton.1 h)
  | cons first rest ih =>
      unfold put at h
      split at h
      · exact (List.mem_cons.1 h).imp_right (List.mem_cons_of_mem first)
      · rcases List.mem_cons.1 h with rfl | h
        · exact .inr List.mem_cons_self
        · exact (ih h).imp_right (List.mem_cons_of_mem first)

theorem distinct_ofMembers {members : List (String × Json)} (h : ∀ m ∈ members, Distinct m.2) :
    (ofMembers members).Distinct := by
  have hfold (found : List (String × Json)) (hkeys : (found.map Prod.fst).Nodup)
      (hvalues : ∀ m ∈ found, Distinct m.2) :
      Distinct (.obj (members.foldl (fun found m => put found m.1 m.2) found)) := by
    induction members generalizing found with
    | nil => exact .obj hkeys hvalues
    | cons m rest ih =>
        refine ih (fun m hm => h m (List.mem_cons_of_mem _ hm)) _ (nodup_put hkeys _ _) ?_
        intro n hn
        rcases mem_put hn with rfl | hn
        · exact h m List.mem_cons_self
        · exact hvalues n hn
  exact hfold [] List.nodup_nil (by simp)

/-- What an open array or object holds so far has no key twice inside. -/
def Frame.Distinct : Frame → Prop
  | .arr items => ∀ i ∈ items, i.Distinct
  | .obj members _ => ∀ m ∈ members, m.2.Distinct

theorem distinct_of_readValue {stack : List Frame} {ts : List Token} {v : Json}
    (hstack : ∀ f ∈ stack, f.Distinct) (h : readValue stack ts = some v) : v.Distinct := by
  induction stack, ts using readValue.induct
    (motive_2 := fun value stack ts => value.Distinct → (∀ f ∈ stack, f.Distinct) →
      readOn value stack ts = some v → v.Distinct) with
  | case1 stack rest ih => exact ih .null hstack (by simpa [readValue] using h)
  | case2 stack b rest ih => exact ih (.bool b) hstack (by simpa [readValue] using h)
  | case3 stack s rest ih => exact ih (.str s) hstack (by simpa [readValue] using h)
  | case4 stack n rest ih => exact ih (.num n) hstack (by simpa [readValue] using h)
  | case5 stack rest ih => exact ih (.arr (by simp)) hstack (by simpa [readValue] using h)
  | case6 stack rest hopen ih =>
      refine ih ?_ (by simpa [readValue, hopen] using h)
      exact List.forall_mem_cons.2 ⟨by simp [Frame.Distinct], hstack⟩
  | case7 stack rest ih =>
      exact ih (.obj List.nodup_nil (by simp)) hstack (by simpa [readValue] using h)
  | case8 stack key rest ih =>
      refine ih ?_ (by simpa [readValue] using h)
      exact List.forall_mem_cons.2 ⟨by simp [Frame.Distinct], hstack⟩
  | case9 ts stack => simp_all [readValue]
  | case10 value hvalue _ h =>
      obtain rfl : value = v := by simpa [readOn] using h
      exact hvalue
  | case11 value items stack rest ih hvalue hstack h =>
      obtain ⟨hitems, hstack⟩ := List.forall_mem_cons.1 hstack
      refine ih ?_ (by simpa [readOn] using h)
      exact List.forall_mem_cons.2 ⟨List.forall_mem_cons.2 ⟨hvalue, hitems⟩, hstack⟩
  | case12 value items stack rest ih hvalue hstack h =>
      obtain ⟨hitems, hstack⟩ := List.forall_mem_cons.1 hstack
      refine ih (.arr fun i hi => ?_) hstack (by simpa [readOn] using h)
      exact List.forall_mem_cons.2 ⟨hvalue, hitems⟩ i (List.mem_reverse.1 hi)
  | case13 value members key stack next rest ih hvalue hstack h =>
      obtain ⟨hmembers, hstack⟩ := List.forall_mem_cons.1 hstack
      refine ih ?_ (by simpa [readOn] using h)
      exact List.forall_mem_cons.2 ⟨List.forall_mem_cons.2 ⟨hvalue, hmembers⟩, hstack⟩
  | case14 value members key stack rest ih hvalue hstack h =>
      obtain ⟨hmembers, hstack⟩ := List.forall_mem_cons.1 hstack
      have hall : ∀ m ∈ (key, value) :: members, m.2.Distinct :=
        List.forall_mem_cons.2 ⟨hvalue, hmembers⟩
      refine ih (distinct_ofMembers fun m hm => ?_) hstack (by simpa [readOn] using h)
      exact hall m (List.mem_reverse.1 hm)
  | case15 ts value stack _ _ _ _ _ _ _ h => simp_all [readOn]

/-- Every value that is read from a text has each key of an object once. -/
theorem distinct_of_parse? {text : String} {v : Json} (h : parse? text = some v) :
    v.Distinct := by
  obtain ⟨ts, -, hread⟩ := Option.bind_eq_some_iff.1 h
  exact distinct_of_readValue (by simp) hread

end Rollout.Json
