import Mathlib.Data.List.Forall2
import Mathlib.Data.List.Nodup
import Mathlib.Data.String.Basic
import Rollout.Json.Canonical
import Rollout.Proofs.Escape
import Rollout.Proofs.NumberText

/-!
# What a canonical text tells

Two values have the same canonical text if and only if they differ in nothing but the order in
which the members of objects were given. The text can be read in one way only, also before
something else: `same_of_chars_append` says so by induction on the value, as each item and each
member stands before a comma or a bracket. And members whose keys differ can be sorted in one
way only.
-/

namespace Rollout.Json

mutual

/-- Values that differ in nothing but the order of the members of objects, at any depth. Numbers
count as the same if their texts are. -/
inductive Same : Json → Json → Prop where
  | null : Same .null .null
  | bool (value : Bool) : Same (.bool value) (.bool value)
  | num {m n : Number} (chars_eq : m.chars = n.chars) : Same (.num m) (.num n)
  | str (value : String) : Same (.str value) (.str value)
  | arr {xs ys : List Json} (items : List.Forall₂ Same xs ys) : Same (.arr xs) (.arr ys)
  | obj {ms ms' ns ns' : List (String × Json)} (left : ms.Perm ms') (right : ns.Perm ns')
      (members : List.Forall₂ SameMember ms' ns') : Same (.obj ms) (.obj ns)

inductive SameMember : String × Json → String × Json → Prop where
  | intro {v w : Json} (key : String) (same : Same v w) : SameMember (key, v) (key, w)

end

/-- No object, at any depth, has two members with one key. -/
inductive Distinct : Json → Prop where
  | null : Distinct .null
  | bool (value : Bool) : Distinct (.bool value)
  | num (n : Number) : Distinct (.num n)
  | str (value : String) : Distinct (.str value)
  | arr {items : List Json} (items_distinct : ∀ i ∈ items, Distinct i) : Distinct (.arr items)
  | obj {members : List (String × Json)} (keys : (members.map Prod.fst).Nodup)
      (values : ∀ m ∈ members, Distinct m.2) : Distinct (.obj members)

@[induction_eliminator]
theorem induct {motive : Json → Prop} (null : motive .null)
    (bool : ∀ value, motive (.bool value)) (num : ∀ n, motive (.num n))
    (str : ∀ value, motive (.str value))
    (arr : ∀ items, (∀ i ∈ items, motive i) → motive (.arr items))
    (obj : ∀ members, (∀ m ∈ members, motive m.2) → motive (.obj members)) :
    ∀ v, motive v
  | .null => null
  | .bool value => bool value
  | .num n => num n
  | .str value => str value
  | .arr items => arr items fun i _ => induct null bool num str arr obj i
  | .obj members => obj members fun m _ => induct null bool num str arr obj m.2
termination_by v => sizeOf v
decreasing_by
  · have := List.sizeOf_lt_of_mem ‹i ∈ items›
    simp only [Json.arr.sizeOf_spec]
    omega
  · have := List.sizeOf_lt_of_mem ‹m ∈ members›
    obtain ⟨key, value⟩ := m
    simp only [Json.obj.sizeOf_spec, Prod.mk.sizeOf_spec] at *
    omega

/-! ## The parts of a text -/

theorem charsOfItems_eq_map (items : List Json) : charsOfItems items = items.map chars := by
  induction items with
  | nil => rfl
  | cons item items ih => rw [charsOfItems, ih, List.map_cons]

def written (m : String × Json) : String × List Char := (m.1, m.2.chars)

theorem charsOfMembers_eq_map (members : List (String × Json)) :
    charsOfMembers members = members.map written := by
  induction members with
  | nil => rfl
  | cons m members ih =>
      obtain ⟨key, value⟩ := m
      rw [charsOfMembers, ih, List.map_cons]
      rfl

theorem joined_cons (separator : Char) (text : List Char) (rest : List (List Char)) :
    joined separator (text :: rest) = text ++ rest.flatMap (separator :: ·) := by
  induction rest generalizing text with
  | nil => simp [joined]
  | cons next rest ih =>
      have hjoined : joined separator (text :: next :: rest) =
          text ++ separator :: joined separator (next :: rest) := rfl
      rw [hjoined, ih, List.flatMap_cons, List.cons_append]

section SortMembers

variable {α : Type}

theorem sortMembers_perm (members : List (String × α)) : (sortMembers members).Perm members :=
  List.mergeSort_perm _ _

theorem pairwise_sortMembers (members : List (String × α)) :
    (sortMembers members).Pairwise fun a b => a.1 ≤ b.1 := by
  have hsorted := @List.pairwise_mergeSort _ (fun a b : String × α => decide (a.1 ≤ b.1))
    (fun a b c hab hbc => by simpa using le_trans (by simpa using hab) (by simpa using hbc))
    (fun a b => by simpa using le_total a.1 b.1) members
  exact hsorted.imp fun h => by simpa using h

theorem sortMembers_eq_of_perm {xs ys : List (String × α)} (hkeys : (xs.map Prod.fst).Nodup)
    (h : xs.Perm ys) : sortMembers xs = sortMembers ys := by
  have hperm := (sortMembers_perm xs).trans (h.trans (sortMembers_perm ys).symm)
  refine hperm.eq_of_pairwise ?_ (pairwise_sortMembers xs) (pairwise_sortMembers ys)
  intro a b ha hb hab hba
  have hx : a ∈ xs := (sortMembers_perm xs).mem_iff.1 ha
  have hy : b ∈ xs := h.mem_iff.2 ((sortMembers_perm ys).mem_iff.1 hb)
  exact List.inj_on_of_nodup_map hkeys hx hy (le_antisymm hab hba)

end SortMembers

theorem sortMembers_map_written (members : List (String × Json)) :
    sortMembers (members.map written) = (sortMembers members).map written := by
  have hmap := @List.map_mergeSort _ _ (fun a b : String × Json => decide (a.1 ≤ b.1))
    (fun a b : String × List Char => decide (a.1 ≤ b.1)) written members
  exact (hmap fun _ _ _ _ => rfl).symm

theorem chars_arr (items : List Json) :
    (arr items).chars = '[' :: (joined ',' (items.map chars) ++ [']']) := by
  rw [chars, charsOfItems_eq_map]

theorem chars_obj (members : List (String × Json)) :
    (obj members).chars =
      '{' :: (joined ',' ((sortMembers members).map (memberChars ∘ written)) ++ ['}']) := by
  rw [chars, charsOfMembers_eq_map, sortMembers_map_written, List.map_map]

/-! ## Values that are the same have one text -/

theorem map_eq_of_forall₂ {α β γ : Type} {R : α → β → Prop} {f : α → γ} {g : β → γ} {xs : List α}
    {ys : List β} (h : List.Forall₂ R xs ys) (heq : ∀ x ∈ xs, ∀ y, R x y → f x = g y) :
    xs.map f = ys.map g := by
  induction h with
  | nil => rfl
  | @cons x y xs ys hxy _ ih =>
      have hrest := ih fun x hx => heq x (List.mem_cons_of_mem _ hx)
      rw [List.map_cons, List.map_cons, heq x List.mem_cons_self y hxy, hrest]

theorem chars_eq_of_same {v w : Json} (hv : v.Distinct) (h : Same v w) : v.chars = w.chars := by
  induction v generalizing w with
  | null | bool | str =>
      cases h
      rfl
  | num n =>
      cases h with
      | num chars_eq => exact chars_eq
  | arr items ih =>
      cases h with
      | arr same =>
          cases hv with
          | arr items_distinct =>
              have hchars := map_eq_of_forall₂ same fun x hx _ h =>
                ih x hx (items_distinct x hx) h
              rw [chars_arr, chars_arr, hchars]
  | obj members ih =>
      cases h with
      | @obj _ ms' ns ns' left right same =>
          cases hv with
          | obj keys values =>
              -- The texts of the values settle which members there are, and sorting their order.
              have hwritten : ms'.map written = ns'.map written := by
                refine map_eq_of_forall₂ same fun m hm n h => ?_
                cases h with
                | intro key h =>
                    have hmem := left.mem_iff.2 hm
                    rw [written, written, ih _ hmem (values _ hmem) h]
              have hperm : (members.map written).Perm (ns.map written) := by
                have hleft := left.map written
                rw [hwritten] at hleft
                exact hleft.trans (right.map written).symm
              have hkeys : ((members.map written).map Prod.fst).Nodup := by
                rw [List.map_map]
                exact keys
              rw [chars, chars, charsOfMembers_eq_map, charsOfMembers_eq_map,
                sortMembers_eq_of_perm hkeys hperm]

/-! ## A text has one reading -/

section Joined

variable {α : Type} {write : α → List Char} {R : α → α → Prop} {close : Char} {xs ys : List α}
  {a b : List Char}

theorem flatMap_comma (x : α) (xs : List α) :
    (x :: xs).flatMap (fun x => ',' :: write x) = ',' :: joined ',' ((x :: xs).map write) := by
  rw [List.map_cons, joined_cons, List.flatMap_map, List.flatMap_cons, List.cons_append]

/-- What comes behind an item, up to the closing bracket and beyond it. -/
theorem stops_flatMap (hclose : isNumberChar close = false) (xs : List α) (a : List Char) :
    Stops (xs.flatMap (fun x => ',' :: write x) ++ close :: a) := by
  cases xs with
  | nil => exact stops_cons.2 hclose
  | cons x xs => exact stops_cons.2 (by decide)

theorem forall₂_of_flatMap (hclose : isNumberChar close = false) (hcomma : close ≠ ',')
    (hread : ∀ x ∈ xs, ∀ y a b, Stops a → Stops b → write x ++ a = write y ++ b →
      R x y ∧ a = b) :
    ∀ {ys : List α}, xs.flatMap (fun x => ',' :: write x) ++ close :: a =
        ys.flatMap (fun y => ',' :: write y) ++ close :: b →
      List.Forall₂ R xs ys ∧ a = b := by
  induction xs with
  | nil =>
      intro ys h
      cases ys with
      | nil => exact ⟨.nil, by simpa using h⟩
      | cons y ys => simp [hcomma] at h
  | cons x xs ih =>
      intro ys h
      cases ys with
      | nil => simp [hcomma.symm] at h
      | cons y ys =>
          have hfirst : write x ++ (xs.flatMap (fun x => ',' :: write x) ++ close :: a) =
              write y ++ (ys.flatMap (fun y => ',' :: write y) ++ close :: b) := by
            simpa using h
          obtain ⟨hxy, hrest⟩ := hread x List.mem_cons_self y _ _ (stops_flatMap hclose xs a)
            (stops_flatMap hclose ys b) hfirst
          obtain ⟨hxys, hab⟩ := ih (fun x hx => hread x (List.mem_cons_of_mem _ hx)) hrest
          exact ⟨.cons hxy hxys, hab⟩

/-- Items with commas between them and a closing bracket behind them can be read one by one. -/
theorem forall₂_of_joined (hclose : isNumberChar close = false) (hcomma : close ≠ ',')
    (hopen : ∀ x rest a, write x ++ rest ≠ close :: a)
    (hread : ∀ x ∈ xs, ∀ y a b, Stops a → Stops b → write x ++ a = write y ++ b →
      R x y ∧ a = b)
    (h : joined ',' (xs.map write) ++ close :: a = joined ',' (ys.map write) ++ close :: b) :
    List.Forall₂ R xs ys ∧ a = b := by
  cases xs with
  | nil =>
      cases ys with
      | nil => exact ⟨.nil, by simpa [joined] using h⟩
      | cons y ys =>
          rw [List.map_cons, joined_cons, List.append_assoc] at h
          exact absurd h.symm (hopen y _ _)
  | cons x xs =>
      cases ys with
      | nil =>
          rw [List.map_cons, joined_cons, List.append_assoc] at h
          exact absurd h (hopen x _ _)
      | cons y ys =>
          have hcommas := congrArg (',' :: ·) h
          simp only [← List.cons_append, ← flatMap_comma] at hcommas
          exact forall₂_of_flatMap hclose hcomma hread hcommas

end Joined

/-- What a value begins with shows of which kind it is. -/
inductive Kind where
  | null
  | bool
  | num
  | str
  | arr
  | obj

def kind : Json → Kind
  | .null => .null
  | .bool _ => .bool
  | .num _ => .num
  | .str _ => .str
  | .arr _ => .arr
  | .obj _ => .obj

def Kind.ofChar? (c : Char) : Option Kind :=
  match c with
  | 'n' => some .null
  | 't' => some .bool
  | 'f' => some .bool
  | '"' => some .str
  | '[' => some .arr
  | '{' => some .obj
  | c => if isNumberChar c then some .num else none

theorem Kind.ofChar?_eq_num {c : Char} (h : isNumberChar c = true) :
    Kind.ofChar? c = some .num := by
  unfold Kind.ofChar?
  split
  case h_7 => exact if_pos h
  all_goals exact absurd h (by decide)

theorem exists_chars_eq_cons (v : Json) :
    ∃ c rest, v.chars = c :: rest ∧ Kind.ofChar? c = some v.kind := by
  cases v with
  | null => exact ⟨'n', _, rfl, rfl⟩
  | bool value =>
      cases value with
      | true => exact ⟨'t', _, rfl, rfl⟩
      | false => exact ⟨'f', _, rfl, rfl⟩
  | num n =>
      obtain ⟨c, rest, hcons⟩ := List.exists_cons_of_ne_nil n.chars_ne_nil
      have hc : isNumberChar c = true := List.all_eq_true.1 n.all_chars c (by simp [hcons])
      exact ⟨c, rest, hcons, Kind.ofChar?_eq_num hc⟩
  | str value => exact ⟨'"', _, rfl, rfl⟩
  | arr items => exact ⟨'[', _, chars_arr items, rfl⟩
  | obj members => exact ⟨'{', _, chars_obj members, rfl⟩

theorem kind_eq_of_append {v w : Json} {a b : List Char} (h : v.chars ++ a = w.chars ++ b) :
    v.kind = w.kind := by
  obtain ⟨c, rest, hv, hc⟩ := exists_chars_eq_cons v
  obtain ⟨d, rest', hw, hd⟩ := exists_chars_eq_cons w
  rw [hv, hw, List.cons_append, List.cons_append, List.cons.injEq] at h
  rw [h.1, hd] at hc
  exact (Option.some.inj hc).symm

theorem chars_append_ne {v : Json} {close : Char} (hclose : Kind.ofChar? close = none)
    (rest a : List Char) : v.chars ++ rest ≠ close :: a := by
  obtain ⟨c, rest', hv, hc⟩ := exists_chars_eq_cons v
  rw [hv, List.cons_append]
  intro h
  rw [(List.cons.inj h).1, hclose] at hc
  simp at hc

theorem values_of_memberChars {m n : String × Json} {a b : List Char}
    (h : memberChars (written m) ++ a = memberChars (written n) ++ b) :
    m.1 = n.1 ∧ m.2.chars ++ a = n.2.chars ++ b := by
  simp only [memberChars, written, List.append_assoc] at h
  obtain ⟨hkey, hrest⟩ := quote_append_inj h
  exact ⟨hkey, (List.cons.inj hrest).2⟩

/-- A text of a value, before something that does not go on with a number, is the text of that
value only. -/
theorem same_of_chars_append {v w : Json} {a b : List Char} (ha : Stops a) (hb : Stops b)
    (h : v.chars ++ a = w.chars ++ b) : Same v w ∧ a = b := by
  have hkind := kind_eq_of_append h
  induction v generalizing w a b with
  | null =>
      cases w with
      | null => exact ⟨.null, List.append_cancel_left h⟩
      | _ => simp [kind] at hkind
  | bool value =>
      cases w with
      | bool value' =>
          cases value with
          | true =>
              cases value' with
              | true => exact ⟨.bool true, List.append_cancel_left h⟩
              | false => simp [chars] at h
          | false =>
              cases value' with
              | true => simp [chars] at h
              | false => exact ⟨.bool false, List.append_cancel_left h⟩
      | _ => simp [kind] at hkind
  | num n =>
      cases w with
      | num m =>
          obtain ⟨hchars, hab⟩ := Number.chars_append_inj ha hb h
          exact ⟨.num hchars, hab⟩
      | _ => simp [kind] at hkind
  | str value =>
      cases w with
      | str value' =>
          obtain ⟨rfl, hab⟩ := quote_append_inj h
          exact ⟨.str value, hab⟩
      | _ => simp [kind] at hkind
  | arr items ih =>
      cases w with
      | arr items' =>
          have hitems : joined ',' (items.map chars) ++ ']' :: a =
              joined ',' (items'.map chars) ++ ']' :: b := by
            simpa [chars_arr] using h
          obtain ⟨hsame, hab⟩ := forall₂_of_joined (by decide) (by decide)
            (fun _ => chars_append_ne (by decide))
            (fun x hx y a b ha hb h => ih x hx ha hb h (kind_eq_of_append h)) hitems
          exact ⟨.arr hsame, hab⟩
      | _ => simp [kind] at hkind
  | obj members ih =>
      cases w with
      | obj members' =>
          have hmembers :
              joined ',' ((sortMembers members).map (memberChars ∘ written)) ++ '}' :: a =
                joined ',' ((sortMembers members').map (memberChars ∘ written)) ++ '}' :: b := by
            simpa [chars_obj] using h
          have hread (m : String × Json) (hm : m ∈ sortMembers members) (n : String × Json)
              (a b : List Char) (ha : Stops a) (hb : Stops b)
              (h : memberChars (written m) ++ a = memberChars (written n) ++ b) :
              SameMember m n ∧ a = b := by
            obtain ⟨hkey, hvalues⟩ := values_of_memberChars h
            obtain ⟨hsame, hab⟩ := ih m ((sortMembers_perm members).mem_iff.1 hm) ha hb hvalues
              (kind_eq_of_append hvalues)
            obtain ⟨key, v⟩ := m
            obtain ⟨_, w⟩ := n
            obtain rfl : key = _ := hkey
            exact ⟨.intro key hsame, hab⟩
          -- It is the sorted members that agree one by one, and each side has been sorted.
          obtain ⟨hsame, hab⟩ := forall₂_of_joined (by decide) (by decide)
            (fun m _ _ h => by simp [memberChars, quote] at h) hread hmembers
          exact ⟨.obj (sortMembers_perm members).symm (sortMembers_perm members').symm hsame, hab⟩
      | _ => simp [kind] at hkind

theorem text_eq_iff_same {v w : Json} (hv : v.Distinct) : v.text = w.text ↔ Same v w := by
  constructor
  · intro h
    have hchars : v.chars ++ [] = w.chars ++ [] := by
      rw [String.ofList_inj.1 h]
    exact (same_of_chars_append stops_nil stops_nil hchars).1
  · intro h
    exact congrArg String.ofList (chars_eq_of_same hv h)

end Rollout.Json
