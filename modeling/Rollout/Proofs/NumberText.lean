import Rollout.Json.Reader

/-!
# The texts of numbers

A number is written with digits, a point, a mark for the exponent and signs. None of these can
stand right behind it in a JSON text, so that its text shows where it ends.
-/

namespace Rollout

open Json (isNumberChar)

theorem isNumberChar_of_mem_decimal {n : Nat} {c : Char} (h : c ∈ Text.decimal n) :
    isNumberChar c = true := by
  have hdigit : c.isDigit = true := Nat.isDigit_of_mem_toDigits (by decide) (by decide) h
  simp [isNumberChar, hdigit]

@[simp] theorem all_decimal (n : Nat) : (Text.decimal n).all isNumberChar = true :=
  List.all_eq_true.2 fun _ h => isNumberChar_of_mem_decimal h

theorem decimal_ne_nil (n : Nat) : Text.decimal n ≠ [] := Nat.toDigits_ne_nil

namespace Binary64

theorem all_render (layout : Layout) (d : Decimal) :
    (layout.render d).all isNumberChar = true := by
  have hdigits := all_decimal d.digits
  have hzero : isNumberChar '0' = true := by decide
  have hpoint : isNumberChar '.' = true := by decide
  have hmark : isNumberChar 'e' = true := by decide
  have hsign (negative : Prop) [Decidable negative] :
      isNumberChar (if negative then '-' else '+') = true := by
    split <;> decide
  simp only [Layout.render]
  split
  · rw [List.all_append, Bool.and_eq_true]
    constructor
    · split
      · rename_i first second rest hcons
        rw [hcons] at hdigits
        simpa [hpoint] using hdigits
      · exact hdigits
    · simp [hmark, hsign]
  split
  · simp [hzero, hpoint]
  split
  · have htake (k : Nat) : ((Text.decimal d.digits).take k).all isNumberChar = true :=
      List.all_eq_true.2 fun _ h => isNumberChar_of_mem_decimal (List.mem_of_mem_take h)
    have hdrop (k : Nat) : ((Text.decimal d.digits).drop k).all isNumberChar = true :=
      List.all_eq_true.2 fun _ h => isNumberChar_of_mem_decimal (List.mem_of_mem_drop h)
    rw [List.all_append, htake, List.all_cons, hpoint, hdrop]
    rfl
  · simp [hzero, hpoint]

theorem render_ne_nil (layout : Layout) (d : Decimal) : layout.render d ≠ [] := by
  simp only [Layout.render]
  split
  · simp
  split
  · simp
  split
  · simp
  · simp

theorem all_chars (x : Binary64) : x.chars.all isNumberChar = true := by
  have hminus : isNumberChar '-' = true := by decide
  have hrender := all_render .standard x.shortest
  unfold chars
  split
  · simpa [hminus] using hrender
  · simpa using hrender

theorem chars_ne_nil (x : Binary64) : x.chars ≠ [] :=
  List.append_ne_nil_of_right_ne_nil _ (render_ne_nil .standard x.shortest)

end Binary64

namespace Json

/-- What does not go on with a number. -/
def Stops (rest : List Char) : Prop := ∀ c ∈ rest.head?, isNumberChar c = false

theorem stops_nil : Stops [] := by simp [Stops]

theorem stops_cons {c : Char} {rest : List Char} :
    Stops (c :: rest) ↔ isNumberChar c = false := by
  simp [Stops]

namespace Number

theorem all_chars (n : Number) : n.chars.all isNumberChar = true := by
  have hminus : isNumberChar '-' = true := by decide
  cases n with
  | integer value =>
      cases value with
      | ofNat n => exact all_decimal n
      | negSucc n => simp [chars, hminus]
  | double x => exact x.all_chars

theorem chars_ne_nil (n : Number) : n.chars ≠ [] := by
  cases n with
  | integer value =>
      cases value with
      | ofNat n => exact decimal_ne_nil n
      | negSucc n => simp [chars]
  | double x => exact x.chars_ne_nil

/-- The texts of two numbers are the same if what follows them cannot go on with a number. -/
theorem chars_append_inj {m n : Number} {a b : List Char} (ha : Stops a) (hb : Stops b)
    (h : m.chars ++ a = n.chars ++ b) : m.chars = n.chars ∧ a = b := by
  have htake (n : Number) {a : List Char} (ha : Stops a) :
      (n.chars ++ a).takeWhile isNumberChar = n.chars := by
    have hnone : a.takeWhile isNumberChar = [] := by
      cases a with
      | nil => rfl
      | cons c a => simp [stops_cons.1 ha]
    rw [List.takeWhile_append_of_pos (List.all_eq_true.1 n.all_chars), hnone, List.append_nil]
  have hchars : m.chars = n.chars := by rw [← htake m ha, ← htake n hb, h]
  rw [hchars] at h
  exact ⟨hchars, List.append_cancel_left h⟩

end Number

end Json

end Rollout
