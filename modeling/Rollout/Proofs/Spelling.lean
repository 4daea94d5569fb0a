import Mathlib.Data.List.DropRight
import Mathlib.Data.List.Forall2
import Rollout.Text.Blank
import Rollout.Text.Count

/-!
# Spellings

In which ways a value may be written: blanks around a text that has none at its ends
(`trim_eq_iff`), a word with any of its letters in upper case (`lower_eq_iff`), and a count as
decimal digits, any number of zeros before them and a plus sign in front (`readCount_eq_ok_iff`).
-/

namespace Rollout.Text

variable {text core : String} {cs ds : List Char}

/-! ## Blanks around a text -/

/-- The characters with the property White_Space. -/
def whiteSpace : List Char :=
  ['\t', '\n', '\x0b', '\x0c', '\r', ' ', '\u0085', '\u00a0', '\u1680', '\u2000', '\u2001', '\u2002',
    '\u2003', '\u2004', '\u2005', '\u2006', '\u2007', '\u2008', '\u2009', '\u200a', '\u2028', '\u2029',
    '\u202f', '\u205f', '\u3000']

theorem isBlank_iff {c : Char} : isBlank c = true ↔ c ∈ whiteSpace := by
  simp only [isBlank, whiteSpace, Bool.or_eq_true, Bool.and_eq_true, decide_eq_true_eq, beq_iff_eq,
    List.mem_cons, List.not_mem_nil, or_false, ← Char.toNat_inj, Char.reduceToNat]
  omega

theorem isBlank_eq_false_iff {c : Char} : isBlank c = false ↔ c ∉ whiteSpace := by
  rw [← isBlank_iff, Bool.not_eq_true]

/-- A text is another one, with no blank at its ends, and blanks around it. -/
structure TrimsTo (text core : String) : Prop where
  around : ∃ before after, text.toList = before ++ core.toList ++ after ∧
    (∀ c ∈ before, c ∈ whiteSpace) ∧ ∀ c ∈ after, c ∈ whiteSpace
  first : ∀ c ∈ core.toList.head?, c ∉ whiteSpace
  last : ∀ c ∈ core.toList.getLast?, c ∉ whiteSpace

theorem trimChars_eq (cs : List Char) : trimChars cs = (cs.dropWhile isBlank).rdropWhile isBlank :=
  rfl

theorem head?_dropWhile_isBlank (cs : List Char) :
    ∀ c ∈ (cs.dropWhile isBlank).head?, isBlank c = false := by
  intro c hc
  have hnot := List.head?_dropWhile_not isBlank cs
  rw [Option.mem_def.1 hc] at hnot
  exact hnot

theorem dropWhile_isBlank_eq_self (h : ∀ c ∈ cs.head?, isBlank c = false) :
    cs.dropWhile isBlank = cs := by
  cases cs with
  | nil => rfl
  | cons c rest => exact List.dropWhile_cons_of_neg (by simp [h c rfl])

theorem trimChars_around {before after : List Char} (hbefore : ∀ c ∈ before, isBlank c = true)
    (hafter : ∀ c ∈ after, isBlank c = true) (hfirst : ∀ c ∈ cs.head?, isBlank c = false)
    (hlast : ∀ c ∈ cs.getLast?, isBlank c = false) : trimChars (before ++ cs ++ after) = cs := by
  rw [trimChars_eq, List.append_assoc, List.dropWhile_append_of_pos hbefore]
  cases cs with
  | nil => rw [List.nil_append, List.dropWhile_eq_nil_iff.2 hafter, List.rdropWhile_nil]
  | cons c rest =>
      have hdrop : (c :: rest ++ after).dropWhile isBlank = c :: rest ++ after :=
        dropWhile_isBlank_eq_self hfirst
      rw [hdrop, List.rdropWhile, List.reverse_append,
        List.dropWhile_append_of_pos fun d hd => hafter d (List.mem_reverse.1 hd),
        dropWhile_isBlank_eq_self, List.reverse_reverse]
      rwa [List.head?_reverse]

theorem trimsTo_trim (text : String) : TrimsTo text (trim text) := by
  have hcore : (trim text).toList = (text.toList.dropWhile isBlank).rdropWhile isBlank := by
    rw [trim, String.toList_ofList, trimChars_eq]
  refine ⟨⟨text.toList.takeWhile isBlank, (text.toList.dropWhile isBlank).rtakeWhile isBlank,
    ?_, fun c hc => isBlank_iff.1 (List.mem_takeWhile_imp hc),
    fun c hc => isBlank_iff.1 (List.mem_rtakeWhile_imp hc)⟩, ?_, ?_⟩
  · rw [hcore, List.append_assoc, List.rdropWhile_append_rtakeWhile,
      List.takeWhile_append_dropWhile]
  · intro c hc
    rw [hcore] at hc
    rw [← isBlank_eq_false_iff]
    obtain ⟨after, hafter⟩ := List.rdropWhile_prefix isBlank (text.toList.dropWhile isBlank)
    apply head?_dropWhile_isBlank text.toList c
    rw [← hafter, List.head?_append, Option.mem_def.1 hc]
    rfl
  · intro c hc
    rw [hcore, List.rdropWhile, List.getLast?_reverse] at hc
    exact isBlank_eq_false_iff.1 (head?_dropWhile_isBlank _ c hc)

theorem trim_eq_iff : trim text = core ↔ TrimsTo text core := by
  constructor
  · rintro rfl
    exact trimsTo_trim text
  · rintro ⟨⟨before, after, htext, hbefore, hafter⟩, hfirst, hlast⟩
    simp only [← isBlank_iff, Bool.not_eq_true] at hbefore hafter hfirst hlast
    rw [trim, htext, trimChars_around hbefore hafter hfirst hlast, String.ofList_toList]

/-! ## Letters of either case -/

/-- A text is a word of which any letters may be in upper case. -/
def Spells (word text : String) : Prop :=
  List.Forall₂ (fun l c => c = l ∨ c = l.toUpper) word.toList text.toList

theorem toLower_eq_iff {l c : Char} (hl : l.isLower = true) :
    c.toLower = l ↔ c = l ∨ c = l.toUpper := by
  have ha : 'a'.val.toNat = 97 := rfl
  have hz : 'z'.val.toNat = 122 := rfl
  have hA : 'A'.val.toNat = 65 := rfl
  have hZ : 'Z'.val.toNat = 90 := rfl
  delta Char.isLower at hl
  delta Char.toLower Char.toUpper
  simp only [ge_iff_le, Bool.and_eq_true, decide_eq_true_eq, UInt32.le_iff_toNat_le] at hl
  simp only [UInt32.le_iff_toNat_le, ge_iff_le, dif_pos hl]
  split
  all_goals
    simp only [Char.ext_iff, ← UInt32.toNat_inj, UInt32.toNat_add, UInt32.toNat_sub]
    omega

theorem map_toLower_eq_iff {ls : List Char} (hls : ∀ l ∈ ls, l.isLower = true) :
    cs.map Char.toLower = ls ↔ List.Forall₂ (fun l c => c = l ∨ c = l.toUpper) ls cs := by
  induction ls generalizing cs with
  | nil => rw [List.map_eq_nil_iff, List.forall₂_nil_left_iff]
  | cons l ls ih =>
      obtain ⟨hl, hls⟩ := List.forall_mem_cons.1 hls
      rw [List.map_eq_cons_iff, List.forall₂_cons_left_iff]
      simp only [toLower_eq_iff hl, ih hls]
      constructor
      · rintro ⟨c, rest, rfl, hc, hrest⟩
        exact ⟨c, rest, hc, hrest, rfl⟩
      · rintro ⟨c, rest, hc, hrest, rfl⟩
        exact ⟨c, rest, rfl, hc, hrest⟩

theorem lower_eq_iff {word : String} (hword : ∀ l ∈ word.toList, l.isLower = true) :
    lower text = word ↔ Spells word text := by
  rw [Spells, ← map_toLower_eq_iff hword, lower]
  exact ⟨fun h => by rw [← h, String.toList_ofList], fun h => by rw [h, String.ofList_toList]⟩

/-! ## Counts -/

/-- A text is the digits of a number, with a plus sign in front or none. -/
def SpellsCount (text : String) (n : Nat) : Prop :=
  ∃ digits, digits ≠ [] ∧ (∀ c ∈ digits, c.isDigit = true) ∧
    (text.toList = digits ∨ text.toList = '+' :: digits) ∧ Nat.ofDigitChars 10 digits 0 = n

theorem le_ofDigitChars (n : Nat) (cs : List Char) : n ≤ Nat.ofDigitChars 10 cs n := by
  rw [Nat.ofDigitChars_eq_ofDigitChars_zero]
  have hpow : 0 < 10 ^ cs.length := Nat.pow_pos (by decide)
  have := Nat.le_mul_of_pos_left n hpow
  omega

theorem readDigits_eq_ok_iff {n m : Nat} (hn : n < wordLimit) :
    readDigits n cs = .ok m ↔
      (∀ c ∈ cs, c.isDigit = true) ∧ Nat.ofDigitChars 10 cs n = m ∧ m < wordLimit := by
  induction cs generalizing n with
  | nil =>
      constructor
      · intro h
        obtain rfl := Except.ok.inj h
        exact ⟨by simp, rfl, hn⟩
      · rintro ⟨-, rfl, -⟩
        rfl
  | cons c rest ih =>
      rw [readDigits, Nat.ofDigitChars_cons, List.forall_mem_cons]
      by_cases hc : c.isDigit = true
      · have hvalue : digitValue? c = some (c.toNat - '0'.toNat) := by simp [digitValue?, hc]
        rw [Nat.mul_comm 10 n, hvalue]
        by_cases hfits : n * 10 + (c.toNat - '0'.toNat) < wordLimit
        · simp only [hfits, if_true, ih hfits, hc, true_and]
        · simp only [hfits, if_false, hc, true_and]
          have hle := le_ofDigitChars (n * 10 + (c.toNat - '0'.toNat)) rest
          constructor
          · intro h
            cases h
          · rintro ⟨-, rfl, hlt⟩
            omega
      · simp [digitValue?, hc]

theorem readCount_eq_ok_iff {n : Nat} :
    readCount text = .ok n ↔ SpellsCount text n ∧ n < wordLimit := by
  have hzero : 0 < wordLimit := by decide
  have hplus : '+'.isDigit = false := by decide
  unfold readCount SpellsCount
  generalize text.toList = cs
  unfold readCountChars
  split
  · simp
  · constructor
    · intro h
      cases h
    · rintro ⟨⟨digits, hne, hdigits, rfl | heq, -⟩, -⟩
      · simp [hplus] at hdigits
      · exact absurd (List.cons.inj heq).2.symm hne
  · rename_i rest hrest
    rw [readDigits_eq_ok_iff hzero]
    constructor
    · rintro ⟨hdigits, hvalue, hlt⟩
      exact ⟨⟨rest, hrest, hdigits, .inr rfl, hvalue⟩, hlt⟩
    · rintro ⟨⟨digits, -, hdigits, rfl | heq, hvalue⟩, hlt⟩
      · simp [hplus] at hdigits
      · obtain rfl := (List.cons.inj heq).2
        exact ⟨hdigits, hvalue, hlt⟩
  · rename_i hnil _ hsign
    rw [readDigits_eq_ok_iff hzero]
    constructor
    · rintro ⟨hdigits, hvalue, hlt⟩
      exact ⟨⟨cs, hnil, hdigits, .inl rfl, hvalue⟩, hlt⟩
    · rintro ⟨⟨digits, -, hdigits, rfl | heq, hvalue⟩, hlt⟩
      · exact ⟨hdigits, hvalue, hlt⟩
      · exact absurd heq (hsign digits)

end Rollout.Text
