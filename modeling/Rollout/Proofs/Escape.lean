import Mathlib.Tactic.IntervalCases
import Rollout.Json.Escape

/-!
# Escaped strings end where they say

What `escape` writes before a quote is read back by `unescape`, whatever follows the quote. So a
text in quotes shows where it ends, and which text it is.
-/

namespace Rollout.Json

/-- The ways in which a character is written inside the quotes. -/
inductive Escaped (c : Char) : List Char → Prop where
  | short {letter : Char} (stands : shortEscape? letter = some c) : Escaped c ['\\', letter]
  | unit (control : isControl c = true) : Escaped c ('\\' :: 'u' :: Text.hex 4 c.toNat)
  | plain (no_quote : c ≠ '"') (no_slash : c ≠ '\\') (no_control : isControl c = false) :
      Escaped c [c]

theorem escaped_escapeChar (c : Char) : Escaped c (escapeChar c) := by
  unfold escapeChar
  split
  · rename_i h
    rw [h]
    exact .short rfl
  split
  · rename_i h
    rw [h]
    exact .short rfl
  split
  · rename_i h
    rw [h]
    exact .short rfl
  split
  · rename_i h
    rw [h]
    exact .short rfl
  split
  · rename_i h
    rw [h]
    exact .short rfl
  split
  · rename_i hcontrol
    exact .unit hcontrol
  · rename_i hquote hslash _ _ _ hcontrol
    exact .plain hquote hslash (by simpa using hcontrol)

theorem hexValue?_digitChar {d : Nat} (h : d < 16) :
    Text.hexValue? (Nat.digitChar d) = some d := by
  interval_cases d <;> rfl

theorem hex_four (n : Nat) :
    Text.hex 4 n = [Nat.digitChar (n / 4096 % 16), Nat.digitChar (n / 256 % 16),
      Nat.digitChar (n / 16 % 16), Nat.digitChar (n % 16)] := by
  simp [Text.hex, Nat.div_div_eq_div_mul]

theorem unit?_hex {n : Nat} (h : n < 0x10000) :
    unit? (Nat.digitChar (n / 4096 % 16)) (Nat.digitChar (n / 256 % 16))
      (Nat.digitChar (n / 16 % 16)) (Nat.digitChar (n % 16)) = some n := by
  have hdigit (m : Nat) : Text.hexValue? (Nat.digitChar (m % 16)) = some (m % 16) :=
    hexValue?_digitChar (Nat.mod_lt m (by decide))
  simp only [unit?, hdigit, Option.bind_eq_bind, Option.bind_some, Option.some.injEq]
  omega

theorem toNat_lt_of_isControl {c : Char} (h : isControl c = true) : c.toNat < 0xa0 := by
  simp only [isControl, Bool.or_eq_true, Bool.and_eq_true, decide_eq_true_eq] at h
  omega

theorem le_toNat_of_not_isControl {c : Char} (h : isControl c = false) : 0x20 ≤ c.toNat := by
  simp only [isControl, Bool.or_eq_false_iff, decide_eq_false_iff_not] at h
  omega

theorem Escaped.unescape_append {c : Char} {written : List Char} (h : Escaped c written)
    (rest : List Char) :
    unescape (written ++ rest) =
      (unescape rest).map fun found => (c :: found.1, found.2) := by
  cases h with
  | @short letter stands =>
      have hletter : letter ≠ 'u' := by
        rintro rfl
        simp [shortEscape?] at stands
      simp [unescape, hletter, stands]
  | unit control =>
      have hlt := toNat_lt_of_isControl control
      have hhigh : isHighHalf c.toNat = false := by
        rw [isHighHalf, Bool.and_eq_false_iff]
        exact .inl (decide_eq_false (by omega))
      have hlow : isLowHalf c.toNat = false := by
        rw [isLowHalf, Bool.and_eq_false_iff]
        exact .inl (decide_eq_false (by omega))
      rw [hex_four]
      simp only [List.cons_append, List.nil_append]
      rw [unescape, unit?_hex (by omega)]
      simp [hhigh, hlow]
  | plain no_quote no_slash no_control =>
      have hle := le_toNat_of_not_isControl no_control
      simp [unescape, no_slash, hle]

/-- Reading undoes writing, up to the quote behind the text and not beyond it. -/
theorem unescape_escape (text rest : List Char) :
    unescape (escape text ++ '"' :: rest) = some (text, rest) := by
  induction text with
  | nil => simp [escape, unescape]
  | cons c text ih =>
      have hcons : escape (c :: text) = escapeChar c ++ escape text := List.flatMap_cons
      rw [hcons, List.append_assoc, (escaped_escapeChar c).unescape_append, ih]
      rfl

/-- A text in quotes can be told from what follows it. -/
theorem quote_append_inj {s t : String} {a b : List Char} (h : quote s ++ a = quote t ++ b) :
    s = t ∧ a = b := by
  have hbody : escape s.toList ++ '"' :: a = escape t.toList ++ '"' :: b := by
    simpa [quote] using h
  have hread := congrArg unescape hbody
  rw [unescape_escape, unescape_escape] at hread
  obtain ⟨hs, rfl⟩ := Prod.mk.inj (Option.some.inj hread)
  exact ⟨String.toList_inj.1 hs, rfl⟩

end Rollout.Json
