/-!
# Dictionaries

Finite maps from strings, kept as the list of their entries in strictly ascending order of the
keys. Equal maps are therefore equal values. `get?_insert` and `get?_erase` say what the
operations do to each key, and `exchange_eq` what is given back for a value that is put in.
-/

namespace Rollout

/-- A finite map from strings. -/
structure Dictionary (α : Type) where
  entries : List (String × α)
  ascending : entries.Pairwise fun a b => a.1 < b.1

namespace Dictionary

variable {α : Type}

def empty : Dictionary α := ⟨[], .nil⟩

instance : EmptyCollection (Dictionary α) := ⟨empty⟩

def valueIn (key : String) : List (String × α) → Option α
  | [] => none
  | e :: rest => if key = e.1 then some e.2 else valueIn key rest

def get? (d : Dictionary α) (key : String) : Option α := valueIn key d.entries

def contains (d : Dictionary α) (key : String) : Bool := (d.get? key).isSome

def size (d : Dictionary α) : Nat := d.entries.length

/-- Entries with one more, in its place, or instead of the one with its key. -/
def insertEntry (key : String) (value : α) : List (String × α) → List (String × α)
  | [] => [(key, value)]
  | e :: rest =>
    if key < e.1 then (key, value) :: e :: rest
    else if key = e.1 then (key, value) :: rest
    else e :: insertEntry key value rest

theorem lt_of_not_lt {a b : String} (h : ¬a < b) (hne : a ≠ b) : b < a := by
  by_cases hba : b < a
  · exact hba
  · exact absurd (String.le_antisymm (String.not_lt.1 hba) (String.not_lt.1 h)) hne

theorem mem_insertEntry {key : String} {value : α} {entries : List (String × α)}
    {e : String × α} (h : e ∈ insertEntry key value entries) : e = (key, value) ∨ e ∈ entries := by
  induction entries with
  | nil => simpa [insertEntry] using h
  | cons first rest ih =>
    simp only [insertEntry] at h
    split at h
    · simpa using h
    · split at h
      · exact (List.mem_cons.1 h).imp_right (List.mem_cons_of_mem _)
      · rcases List.mem_cons.1 h with rfl | h
        · exact .inr List.mem_cons_self
        · exact (ih h).imp_right (List.mem_cons_of_mem _)

theorem insertEntry_ascending (key : String) (value : α) {entries : List (String × α)}
    (h : entries.Pairwise fun a b => a.1 < b.1) :
    (insertEntry key value entries).Pairwise fun a b => a.1 < b.1 := by
  induction entries with
  | nil => exact List.pairwise_singleton _ _
  | cons first rest ih =>
    obtain ⟨hfirst, hrest⟩ := List.pairwise_cons.1 h
    simp only [insertEntry]
    split
    · rename_i hlt
      refine List.pairwise_cons.2 ⟨fun e he => ?_, h⟩
      rcases List.mem_cons.1 he with rfl | he
      · exact hlt
      · exact String.lt_trans hlt (hfirst e he)
    · rename_i hlt
      split
      · rename_i heq
        exact List.pairwise_cons.2 ⟨fun e he => heq ▸ hfirst e he, hrest⟩
      · rename_i hne
        refine List.pairwise_cons.2 ⟨fun e he => ?_, ih hrest⟩
        rcases mem_insertEntry he with rfl | he
        · exact lt_of_not_lt hlt hne
        · exact hfirst e he

def insert (d : Dictionary α) (key : String) (value : α) : Dictionary α :=
  ⟨insertEntry key value d.entries, insertEntry_ascending key value d.ascending⟩

/-- The value of the entry that one with a key takes the place of. -/
def displacedIn (key : String) : List (String × α) → Option α
  | [] => none
  | e :: rest =>
    if key < e.1 then none
    else if key = e.1 then some e.2
    else displacedIn key rest

/-- Puts a value under a key, and gives what was there before with the map that comes of it. -/
def exchange (d : Dictionary α) (key : String) (value : α) : Option α × Dictionary α :=
  (displacedIn key d.entries, d.insert key value)

def erase (d : Dictionary α) (key : String) : Dictionary α :=
  ⟨d.entries.filter fun e => e.1 != key, d.ascending.filter _⟩

/-- The map with the given entries, of which the last one of a key counts. -/
def ofList (entries : List (String × α)) : Dictionary α :=
  entries.foldl (fun d e => d.insert e.1 e.2) ∅

@[simp] theorem get?_empty (key : String) : (∅ : Dictionary α).get? key = none := rfl

theorem valueIn_insertEntry (key other : String) (value : α) (entries : List (String × α)) :
    valueIn other (insertEntry key value entries) =
      if other = key then some value else valueIn other entries := by
  induction entries with
  | nil => rfl
  | cons first rest ih => grind [insertEntry, valueIn]

theorem valueIn_filter (key other : String) (entries : List (String × α)) :
    valueIn other (entries.filter fun e => e.1 != key) =
      if other = key then none else valueIn other entries := by
  induction entries with
  | nil => simp [valueIn]
  | cons first rest ih => by_cases h : first.1 = key <;> grind [valueIn]

theorem get?_insert (d : Dictionary α) (key other : String) (value : α) :
    (d.insert key value).get? other = if other = key then some value else d.get? other :=
  valueIn_insertEntry key other value d.entries

theorem valueIn_eq_none {key : String} {entries : List (String × α)}
    (h : ∀ e ∈ entries, key < e.1) : valueIn key entries = none := by
  induction entries with
  | nil => rfl
  | cons first rest ih =>
    obtain ⟨hfirst, hrest⟩ := List.forall_mem_cons.1 h
    rw [valueIn, if_neg (String.ne_of_lt hfirst), ih hrest]

theorem displacedIn_eq_valueIn (key : String) {entries : List (String × α)}
    (h : entries.Pairwise fun a b => a.1 < b.1) : displacedIn key entries = valueIn key entries := by
  induction entries with
  | nil => rfl
  | cons first rest ih =>
    obtain ⟨hfirst, hrest⟩ := List.pairwise_cons.1 h
    rw [displacedIn, valueIn, ih hrest]
    split
    · rename_i hlt
      have hnone := valueIn_eq_none fun e he => String.lt_trans hlt (hfirst e he)
      rw [if_neg (String.ne_of_lt hlt), hnone]
    · rfl

theorem exchange_eq (d : Dictionary α) (key : String) (value : α) :
    d.exchange key value = (d.get? key, d.insert key value) :=
  Prod.ext (displacedIn_eq_valueIn key d.ascending) rfl

theorem get?_erase (d : Dictionary α) (key other : String) :
    (d.erase key).get? other = if other = key then none else d.get? other :=
  valueIn_filter key other d.entries

end Dictionary

end Rollout
