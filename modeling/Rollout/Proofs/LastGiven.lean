import Mathlib.Data.Finset.Card
import Mathlib.Data.List.Induction
import Rollout.Proofs.ByteOrder
import Rollout.Proofs.Canonical
import Rollout.Proofs.Readback

/-!
# Tags hold what was given last

A dictionary is made of entries that are given one after the other, in any order and with any keys
again and again. What it comes to depends on nothing but the value that was given last for each
key: it holds these values, in ascending order of the bytes of the keys (`get?_ofList`), and two
dictionaries with the same values are one (`ext_get?`). So two instances with the same tags are
equal, and are written alike, however the tags came about.
-/

namespace Rollout

namespace Dictionary

variable {α : Type} {d e : Dictionary α} {given : List (String × α)} {key : String} {value : α}

def lastGiven? (key : String) (given : List (String × α)) : Option α :=
  (given.filter fun e => e.1 = key).getLast?.map Prod.snd

def insertAll (d : Dictionary α) (given : List (String × α)) : Dictionary α :=
  given.foldl (fun d e => (d.exchange e.1 e.2).2) d

theorem lastGiven?_concat (key : String) (given : List (String × α)) (e : String × α) :
    lastGiven? key (given ++ [e]) = if key = e.1 then some e.2 else lastGiven? key given := by
  by_cases h : key = e.1
  · simp [lastGiven?, h]
  · simp [lastGiven?, h, Ne.symm h]

theorem isSome_lastGiven? : (lastGiven? key given).isSome ↔ key ∈ given.map Prod.fst := by
  induction given using List.reverseRecOn with
  | nil => simp [lastGiven?]
  | append_singleton given e ih =>
      rw [lastGiven?_concat, List.map_append, List.mem_append, ← ih]
      by_cases h : key = e.1 <;> simp [h]

theorem get?_ofList (given : List (String × α)) (key : String) :
    (ofList given).get? key = lastGiven? key given := by
  induction given using List.reverseRecOn with
  | nil => rfl
  | append_singleton given e ih =>
      rw [lastGiven?_concat, ← ih, ← get?_insert, ofList, List.foldl_append]
      rfl

theorem insertAll_ofList (given more : List (String × α)) :
    (ofList given).insertAll more = ofList (given ++ more) :=
  List.foldl_append.symm

/-! ## Reading the entries -/

theorem valueIn_eq_some_iff {entries : List (String × α)}
    (h : entries.Pairwise fun a b => a.1 < b.1) :
    valueIn key entries = some value ↔ (key, value) ∈ entries := by
  induction entries with
  | nil => simp [valueIn]
  | cons first rest ih =>
      obtain ⟨hfirst, hrest⟩ := List.pairwise_cons.1 h
      rw [valueIn, List.mem_cons, ← ih hrest]
      by_cases hkey : key = first.1
      · -- The key cannot come again, as all that follow are greater.
        subst hkey
        simp [valueIn_eq_none hfirst, Prod.ext_iff, eq_comm]
      · simp [hkey, Prod.ext_iff]

theorem get?_eq_some_iff : d.get? key = some value ↔ (key, value) ∈ d.entries :=
  valueIn_eq_some_iff d.ascending

theorem contains_iff : d.contains key = true ↔ key ∈ d.entries.map Prod.fst := by
  simp [contains, Option.isSome_iff_exists, get?_eq_some_iff]

theorem nodup_keys (d : Dictionary α) : (d.entries.map Prod.fst).Nodup :=
  List.pairwise_map.2 (d.ascending.imp String.ne_of_lt)

theorem eq_of_perm_of_ascending {β : Type} {xs ys : List (String × β)} (h : xs.Perm ys)
    (hxs : xs.Pairwise fun a b => a.1 < b.1) (hys : ys.Pairwise fun a b => a.1 < b.1) :
    xs = ys := by
  refine h.eq_of_pairwise ?_ hxs hys
  intro a b _ _ hab hba
  exact absurd hba (String.lt_asymm hab)

theorem ext_get? (h : ∀ key, d.get? key = e.get? key) : d = e := by
  have hmem (entry : String × α) : entry ∈ d.entries ↔ entry ∈ e.entries := by
    rw [← get?_eq_some_iff, ← get?_eq_some_iff, h]
  have hperm : d.entries.Perm e.entries :=
    (List.perm_ext_iff_of_nodup d.nodup_keys.of_map e.nodup_keys.of_map).2 hmem
  exact ext_entries (eq_of_perm_of_ascending hperm d.ascending e.ascending)

theorem mem_keys_ofList : key ∈ (ofList given).entries.map Prod.fst ↔ key ∈ given.map Prod.fst := by
  rw [← contains_iff, contains, get?_ofList, isSome_lastGiven?]

theorem size_ofList (given : List (String × α)) :
    (ofList given).size = (given.map Prod.fst).toFinset.card := by
  have hkeys : ((ofList given).entries.map Prod.fst).toFinset = (given.map Prod.fst).toFinset := by
    ext key
    rw [List.mem_toFinset, List.mem_toFinset, mem_keys_ofList]
  rw [← hkeys, List.toFinset_card_of_nodup (nodup_keys _), List.length_map, size]

theorem ofList_eq_iff {other : List (String × α)} :
    ofList given = ofList other ↔ ∀ key, lastGiven? key given = lastGiven? key other := by
  constructor
  · intro h key
    rw [← get?_ofList, h, get?_ofList]
  · intro h
    apply ext_get?
    intro key
    rw [get?_ofList, get?_ofList, h]

end Dictionary

namespace Tags

open Dictionary

variable {tags other : Tags}

theorem ofJson?_toJson (tags : Tags) : ofJson? (toJson tags) = some tags :=
  ofJson?_eq_some_iff.2 ⟨tags.entries, rfl, (ofList_entries tags).symm⟩

theorem toJson_eq_iff : toJson tags = toJson other ↔ tags = other := by
  refine ⟨fun h => ?_, congrArg toJson⟩
  have hread := congrArg ofJson? h
  rw [ofJson?_toJson, ofJson?_toJson] at hread
  exact Option.some.inj hread

theorem pairwise_texts (tags : Tags) : (texts tags.entries).Pairwise fun a b => a.1 < b.1 :=
  List.pairwise_map.2 tags.ascending

theorem distinct_toJson (tags : Tags) : (toJson tags).Distinct := by
  refine .obj (List.pairwise_map.2 ((pairwise_texts tags).imp String.ne_of_lt)) ?_
  intro m hm
  obtain ⟨e, -, rfl⟩ := List.mem_map.1 hm
  exact .str e.2

/-- Written tags that differ in nothing but the order of the keys do not differ. -/
theorem toJson_eq_of_same (h : (toJson tags).Same (toJson other)) :
    toJson tags = toJson other := by
  obtain _ | _ | _ | _ | _ | @⟨_, ms, _, ns, left, right, members⟩ := h
  -- All members are strings, and strings are the same only if they are equal.
  have hstr : ∀ m ∈ ms, ∀ n, Json.SameMember m n → id m = id n := by
    intro m hm n hmn
    obtain ⟨e, -, rfl⟩ := List.mem_map.1 (left.mem_iff.2 hm)
    obtain ⟨key, same⟩ := hmn
    cases same
    rfl
  have hmembers : ms = ns := by simpa using Json.map_eq_of_forall₂ members hstr
  subst hmembers
  have hperm : (texts tags.entries).Perm (texts other.entries) := left.trans right.symm
  exact congrArg Json.obj
    (eq_of_perm_of_ascending hperm (pairwise_texts tags) (pairwise_texts other))

theorem text_toJson_eq_iff : (toJson tags).text = (toJson other).text ↔ tags = other := by
  constructor
  · intro h
    exact toJson_eq_iff.1 (toJson_eq_of_same ((Json.text_eq_iff_same (distinct_toJson tags)).1 h))
  · rintro rfl
    rfl

/-- What tags come to for which these entries were given: each key that was ever given, once, in
the order of bytes, with the value that was given for it last. Whatever else is read from them
agrees with these entries. One more value gives back what was there before it, and changes what is
under its key and nothing else. -/
structure Holds (given : List (String × String)) (tags : Tags) : Prop where
  ascending : tags.entries.Pairwise fun a b => Text.bytes a.1 < Text.bytes b.1
  count_key : ∀ key,
    (tags.entries.map Prod.fst).count key = if key ∈ given.map Prod.fst then 1 else 0
  mem_entries_iff : ∀ key value,
    (key, value) ∈ tags.entries ↔ lastGiven? key given = some value
  get?_iff : ∀ key value, tags.get? key = some value ↔ (key, value) ∈ tags.entries
  contains_iff : ∀ key, tags.contains key = true ↔ key ∈ tags.entries.map Prod.fst
  size_eq : tags.size = (given.map Prod.fst).toFinset.card
  displaced : ∀ key value, (tags.exchange key value).1 = tags.get? key
  get?_exchange : ∀ key value other, (tags.exchange key value).2.get? other =
    if other = key then some value else tags.get? other
  revision?_eq : revision? tags = lastGiven? revisionKey given
  slot?_eq : slot? tags = lastGiven? slotKey given

theorem holds_ofList (given : List (String × String)) : Holds given (ofList given) where
  ascending := (ofList given).ascending.imp fun h => Text.bytes_strictMono h
  count_key key := by simp only [(nodup_keys _).count, mem_keys_ofList]
  mem_entries_iff key value := by rw [← get?_eq_some_iff, get?_ofList]
  get?_iff key value := get?_eq_some_iff
  contains_iff key := Dictionary.contains_iff
  size_eq := size_ofList given
  displaced key value := by rw [exchange_eq]
  get?_exchange key value other := by rw [exchange_eq, get?_insert]
  revision?_eq := get?_ofList given revisionKey
  slot?_eq := get?_ofList given slotKey

/-- Tags are what was given last for each key, first as pairs and then by insertions, and two tags
are equal, and written alike, just if the values given last are the same. -/
theorem holds_insertAll (pairs inserts : List (String × String)) :
    Holds (pairs ++ inserts) ((ofList pairs).insertAll inserts) ∧
      ∀ pairs' inserts' : List (String × String),
        let tags : Tags := (ofList pairs).insertAll inserts
        let tags' : Tags := (ofList pairs').insertAll inserts'
        let same := ∀ key,
          lastGiven? key (pairs ++ inserts) = lastGiven? key (pairs' ++ inserts')
        (tags = tags' ↔ same) ∧ (toJson tags = toJson tags' ↔ same) ∧
          ((toJson tags).text = (toJson tags').text ↔ same) := by
  simp only [insertAll_ofList]
  refine ⟨holds_ofList _, fun pairs' inserts' => ⟨ofList_eq_iff, ?_, ?_⟩⟩
  · rw [toJson_eq_iff, ofList_eq_iff]
  · rw [text_toJson_eq_iff, ofList_eq_iff]

/-- Keys are ordered by their bytes, and the value of a key is the last one. -/
example :
    ((ofList [("é", "1"), ("z", "2")]).insertAll [("a", "3"), ("é", "4")]).entries =
      [("a", "3"), ("z", "2"), ("é", "4")] := by decide

end Tags

end Rollout
