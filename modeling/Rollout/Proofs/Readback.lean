import Mathlib.Data.List.Induction
import Rollout.Instance.Json

/-!
# Instances are read back

What is written for an instance is read as this instance, except that properties that are null are
read as none. `Instance.Represents` says which values stand for an instance, and `ofJson?_eq_some_iff`
that reading accepts these values and no others; among them an instance has several, with members
that are null, missing or unknown, or without names. What is written is one of them.
-/

namespace Rollout

namespace Dictionary

variable {α : Type}

theorem ext_entries {d e : Dictionary α} (h : d.entries = e.entries) : d = e := by
  cases d
  cases e
  cases h
  rfl

theorem insertEntry_last {entries : List (String × α)} {key : String} (value : α)
    (h : ∀ e ∈ entries, e.1 < key) :
    insertEntry key value entries = entries ++ [(key, value)] := by
  induction entries with
  | nil => rfl
  | cons first rest ih =>
      have hfirst : first.1 < key := h first List.mem_cons_self
      rw [insertEntry, if_neg (String.lt_asymm hfirst), if_neg (String.ne_of_lt hfirst).symm,
        ih fun e he => h e (List.mem_cons_of_mem _ he), List.cons_append]

theorem entries_ofList {entries : List (String × α)}
    (h : entries.Pairwise fun a b => a.1 < b.1) : (ofList entries).entries = entries := by
  induction entries using List.reverseRecOn with
  | nil => rfl
  | append_singleton entries e ih =>
      obtain ⟨hentries, -, hlast⟩ := List.pairwise_append.1 h
      have hbefore : ∀ a ∈ entries, a.1 < e.1 := fun a ha => hlast a ha e List.mem_cons_self
      rw [ofList, List.foldl_append]
      change insertEntry e.1 e.2 (ofList entries).entries = entries ++ [e]
      rw [ih hentries, insertEntry_last e.2 hbefore]

theorem ofList_entries (d : Dictionary α) : ofList d.entries = d :=
  ext_entries (entries_ofList d.ascending)

end Dictionary

namespace Tags

def texts (entries : List (String × String)) : List (String × Json) :=
  entries.map fun e => (e.1, .str e.2)

theorem entry?_eq_some_iff {m : String × Json} {e : String × String} :
    entry? m = some e ↔ m = (e.1, .str e.2) := by
  obtain ⟨key, value⟩ := m
  obtain ⟨key', text⟩ := e
  cases value <;> simp [Json.asString?, entry?, eq_comm]

theorem mapM_entry?_eq_some_iff {members : List (String × Json)}
    {entries : List (String × String)} :
    members.mapM entry? = some entries ↔ members = texts entries := by
  induction members generalizing entries with
  | nil => cases entries <;> simp [texts]
  | cons m rest ih =>
      rw [List.mapM_cons]
      cases entries with
      | nil => simp [texts, Option.bind_eq_some_iff]
      | cons e entries => simp [texts, Option.bind_eq_some_iff, entry?_eq_some_iff, ih]

theorem ofJson?_eq_some_iff {v : Json} {tags : Tags} :
    ofJson? v = some tags ↔ ∃ entries, v = .obj (texts entries) ∧ tags = .ofList entries := by
  cases v with
  | obj members =>
      simp only [ofJson?, Option.map_eq_some_iff, mapM_entry?_eq_some_iff, Json.obj.injEq]
      exact exists_congr fun entries => and_congr_right fun _ => eq_comm
  | null | bool | num | str | arr => simp [ofJson?]

end Tags

namespace Instance

open Json (member?)

/-- Which parts stand for an instance. A slot that is none may be missing or null, tags may be
missing where there are none, and properties that are none may be missing or null. -/
structure Parts (id slot tags properties : Option Json) (i : Instance) : Prop where
  id_eq : id = some (.str i.id)
  slot_eq : slot = i.slot.map .str ∨ slot = some .null ∧ i.slot = none
  tags_eq : tags = none ∧ i.tags = ∅ ∨
    ∃ entries, tags = some (.obj (Tags.texts entries)) ∧ i.tags = .ofList entries
  properties_eq : properties = i.properties ∨ properties = some .null ∧ i.properties = none
  properties_ne : i.properties ≠ some .null

/-- Which values stand for an instance: objects, whose further members do not matter, and arrays
of the parts, of which those at the end may be missing. -/
inductive Represents : Json → Instance → Prop where
  | obj {members : List (String × Json)} {i : Instance}
      (parts : Parts (member? members "id") (member? members "logical_id")
        (member? members "tags") (member? members "properties") i) :
      Represents (.obj members) i
  | arr {items : List Json} {i : Instance} (few : items.length ≤ 4)
      (parts : Parts items[0]? items[1]? items[2]? items[3]? i) : Represents (.arr items) i

theorem optionalText?_eq_some_iff {value : Option Json} {text : Option String} :
    optionalText? value = some text ↔
      value = text.map .str ∨ value = some .null ∧ text = none := by
  rcases value with _ | value
  · cases text <;> simp [optionalText?]
  · cases value <;> cases text <;> simp [optionalText?]

theorem optionalTags?_eq_some_iff {value : Option Json} {tags : Tags} :
    optionalTags? value = some tags ↔ value = none ∧ tags = ∅ ∨
      ∃ entries, value = some (.obj (Tags.texts entries)) ∧ tags = .ofList entries := by
  cases value with
  | none => simp [optionalTags?, eq_comm]
  | some value => simp [optionalTags?, Tags.ofJson?_eq_some_iff]

theorem optionalProperties_eq_iff {value properties : Option Json} :
    optionalProperties value = properties ↔
      (value = properties ∨ value = some .null ∧ properties = none) ∧
        properties ≠ some .null := by
  rcases value with _ | value
  · cases properties <;> simp [optionalProperties]
  · cases value <;> cases properties <;> simp [optionalProperties] <;> grind

theorem ofParts?_eq_some_iff {id slot tags properties : Option Json} {i : Instance} :
    ofParts? id slot tags properties = some i ↔ Parts id slot tags properties i := by
  obtain ⟨id', slot', tags', properties'⟩ := i
  have hid : (∃ value, id = some value ∧ value.asString? = some id') ↔ id = some (.str id') := by
    rcases id with _ | id
    · simp
    · cases id <;> simp [Json.asString?]
  simp only [ofParts?, Option.bind_eq_bind, Option.bind_eq_some_iff, Option.some.injEq,
    Instance.mk.injEq]
  constructor
  · rintro ⟨value, rfl, text, htext, slot'', hslot, tags'', htags, rfl, rfl, rfl, hproperties⟩
    obtain ⟨hproperties, hne⟩ := optionalProperties_eq_iff.1 hproperties
    exact ⟨hid.1 ⟨value, rfl, htext⟩, optionalText?_eq_some_iff.1 hslot,
      optionalTags?_eq_some_iff.1 htags, hproperties, hne⟩
  · rintro ⟨rfl, hslot, htags, hproperties, hne⟩
    exact ⟨_, rfl, id', rfl, slot', optionalText?_eq_some_iff.2 hslot, tags',
      optionalTags?_eq_some_iff.2 htags, rfl, rfl, rfl,
      optionalProperties_eq_iff.2 ⟨hproperties, hne⟩⟩

theorem ofJson?_eq_some_iff {v : Json} {i : Instance} : ofJson? v = some i ↔ Represents v i := by
  constructor
  · intro h
    cases v with
    | obj members => exact .obj (ofParts?_eq_some_iff.1 h)
    | arr items =>
        simp only [ofJson?] at h
        split at h
        · rename_i hfew
          exact .arr hfew (ofParts?_eq_some_iff.1 h)
        · simp at h
    | null | bool | num | str => simp [ofJson?] at h
  · rintro (parts | ⟨few, parts⟩)
    · exact ofParts?_eq_some_iff.2 parts
    · rw [ofJson?, if_pos few]
      exact ofParts?_eq_some_iff.2 parts

theorem Represents.properties_ne {v : Json} {i : Instance} (h : Represents v i) :
    i.properties ≠ some .null := by
  rcases h with parts | ⟨-, parts⟩
  · exact parts.properties_ne
  · exact parts.properties_ne

/-- What is written for an instance: the members of an object, without those that are none. -/
structure Written (i : Instance) (members : List (String × Json)) : Prop where
  nodup : (members.map Prod.fst).Nodup
  id_eq : member? members "id" = some (.str i.id)
  tags_eq : member? members "tags" = some (Tags.toJson i.tags)
  slot_eq : member? members "logical_id" = i.slot.map .str
  slot_absent : "logical_id" ∉ members.map Prod.fst ↔ i.slot = none
  properties_eq : member? members "properties" = i.properties
  properties_absent : "properties" ∉ members.map Prod.fst ↔ i.properties = none

theorem written_members (i : Instance) : Written i i.members := by
  obtain ⟨id, slot, tags, properties⟩ := i
  rcases slot with _ | slot <;> rcases properties with _ | properties <;>
    exact ⟨by simp [members], rfl, rfl, rfl, by simp [members], rfl, by simp [members]⟩

/-- What is written stands for the instance, or for the one without its properties if these are
null. -/
theorem represents_toJson (i : Instance) :
    Represents i.toJson { i with properties := optionalProperties i.properties } := by
  have hwritten := written_members i
  have hproperties := optionalProperties_eq_iff.1 (@rfl _ (optionalProperties i.properties))
  refine .obj ⟨hwritten.id_eq, .inl hwritten.slot_eq, .inr ⟨i.tags.entries, ?_, ?_⟩, ?_,
    hproperties.2⟩
  · exact hwritten.tags_eq
  · exact (Dictionary.ofList_entries i.tags).symm
  · rw [hwritten.properties_eq]
    exact hproperties.1

theorem ofJson?_toJson_of_ne {i : Instance} (h : i.properties ≠ some .null) :
    ofJson? i.toJson = some i := by
  have hproperties : optionalProperties i.properties = i.properties :=
    optionalProperties_eq_iff.2 ⟨.inl rfl, h⟩
  have hread := ofJson?_eq_some_iff.2 (represents_toJson i)
  rwa [hproperties] at hread

/-- Reading and writing of instances. What is written is read back, but for properties that are
null; and what is read from any value, in whichever form, is written and read back as it is. -/
theorem toJson_reads_back :
    (∀ i : Instance, (∃ members, i.toJson = .obj members ∧ Written i members) ∧
      (i.properties ≠ some .null → ofJson? i.toJson = some i) ∧
      (i.properties = some .null → ofJson? i.toJson = some { i with properties := none })) ∧
    ∀ (v : Json) (i : Instance), (ofJson? v = some i ↔ Represents v i) ∧
      (ofJson? v = some i → ofJson? i.toJson = some i ∧ i.properties ≠ some .null) := by
  constructor
  · intro i
    refine ⟨⟨i.members, rfl, written_members i⟩, ofJson?_toJson_of_ne, ?_⟩
    intro hnull
    have hread := ofJson?_eq_some_iff.2 (represents_toJson i)
    rwa [hnull] at hread
  · intro v i
    refine ⟨ofJson?_eq_some_iff, ?_⟩
    intro hread
    have hne := (ofJson?_eq_some_iff.1 hread).properties_ne
    exact ⟨ofJson?_toJson_of_ne hne, hne⟩

/-- An array with a slot and properties that are null, and tags out of their order. -/
theorem toJson_reads_back_nulls :
    let v : Json := .arr [.str "a", .null, .obj [("z", .str "1"), ("b", .str "2")], .null]
    let i : Instance := ⟨"a", none, .ofList [("b", "2"), ("z", "1")], none⟩
    ofJson? v = some i ∧ Represents v i ∧ ofJson? i.toJson = some i ∧
      ofJson? (i.withProperties .null).toJson = some i := by
  intro v i
  have hread : ofJson? v = some i := rfl
  obtain ⟨hwritten, hvalues⟩ := toJson_reads_back
  exact ⟨hread, (hvalues v i).1.1 hread, ((hvalues v i).2 hread).1,
    (hwritten (i.withProperties .null)).2.2 rfl⟩

end Instance

end Rollout
