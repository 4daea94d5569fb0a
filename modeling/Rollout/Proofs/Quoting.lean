import Mathlib.Data.List.Forall2
import Rollout.Proofs.Escape
import Rollout.Text.Quoted

/-!
# What stands in quotes

Between its quotation marks, a quoted text has one piece for each of its characters. Printable
characters of the ASCII range stand for themselves, except for the quotation mark and the
backslash, and no control character does so. A reader who knows the short forms and the
hexadecimal digits finds the text again (`Quotes.read_back`).
-/

namespace Rollout.Text

/-- The characters with an escape of one letter, and these letters. -/
def shortForms : List (Char × Char) :=
  [('"', '"'), ('\\', '\\'), ('\n', 'n'), ('\r', 'r'), ('\t', 't'), ('\x00', '0')]

/-- The ways in which a character is shown. -/
inductive Shown (c : Char) : List Char → Prop where
  | plain (visible : isHidden c = false) (no_control : Json.isControl c = false)
      (bare : ∀ letter, (c, letter) ∉ shortForms) : Shown c [c]
  | short {letter : Char} (known : (c, letter) ∈ shortForms) : Shown c ['\\', letter]
  | code (hidden : isHidden c = true) (no_ascii : c.toNat < 0x20 ∨ 0x7e < c.toNat)
      (bare : ∀ letter, (c, letter) ∉ shortForms) :
      Shown c ('\\' :: 'u' :: '\x7b' :: (Nat.toDigits 16 c.toNat ++ ['\x7d']))

/-! ## Characters of the ASCII range -/

/-- Between two changes it is the number of those before that decides. -/
theorem CharSet.contains_eq {s : CharSet} {c : Char} (before : List Nat) {next : Nat}
    {behind : List Nat} (hs : s.boundaries = before ++ next :: behind)
    (hbefore : ∀ b ∈ before, b ≤ c.toNat) (hnext : c.toNat < next) :
    s.contains c = (before.length % 2 == 1) := by
  have htake : s.boundaries.takeWhile (· ≤ c.toNat) = before := by
    rw [hs, List.takeWhile_append_of_pos (by simpa using hbefore),
      List.takeWhile_cons_of_neg (by simpa using hnext), List.append_nil]
  rw [CharSet.contains, htake]

theorem isHidden_of_isControl {c : Char} (h : Json.isControl c = true) : isHidden c = true := by
  have hcontains : unprintable.contains c = true := by
    simp only [Json.isControl, Bool.or_eq_true, Bool.and_eq_true, decide_eq_true_eq] at h
    rcases h with hlow | ⟨hdelete, hlast⟩
    · exact CharSet.contains_eq [0] rfl (by simp) hlow
    · have hspace : 0x20 ≤ c.toNat := (by decide : 0x20 ≤ 0x7f).trans hdelete
      have hbefore : ∀ b ∈ [0, 0x20, 0x7f], b ≤ c.toNat := by simpa using ⟨hspace, hdelete⟩
      exact CharSet.contains_eq _ rfl hbefore (hlast.trans_lt (by decide))
  rw [isHidden, hcontains]
  rfl

/-- The characters from the space to the tilde are shown as they are. -/
theorem isHidden_of_ascii {c : Char} (hfirst : 0x20 ≤ c.toNat) (hlast : c.toNat ≤ 0x7e) :
    isHidden c = false := by
  have hprintable : unprintable.contains c = false :=
    CharSet.contains_eq [0, 0x20] rfl (by simpa using hfirst) (hlast.trans_lt (by decide))
  have hknown : ignorable.contains c = false :=
    CharSet.contains_eq [] rfl (by simp) (hlast.trans_lt (by decide))
  have hapart : graphemeExtend.contains c = false :=
    CharSet.contains_eq [] rfl (by simp) (hlast.trans_lt (by decide))
  rw [isHidden, isAttached, hprintable, hknown, hapart]
  rfl

theorem shown_quotedChar (c : Char) : Shown c (quotedChar c) := by
  unfold quotedChar
  split_ifs with hquote hslash hline hreturn htab hnull hhidden
  · rw [hquote]
    exact .short (by decide)
  · rw [hslash]
    exact .short (by decide)
  · rw [hline]
    exact .short (by decide)
  · rw [hreturn]
    exact .short (by decide)
  · rw [htab]
    exact .short (by decide)
  · rw [hnull]
    exact .short (by decide)
  · refine .code hhidden ?_ (by simp [shortForms, *])
    by_contra hascii
    rw [isHidden_of_ascii (by omega) (by omega)] at hhidden
    exact absurd hhidden (by decide)
  · have hvisible : isHidden c = false := by simpa using hhidden
    refine .plain hvisible ?_ (by simp [shortForms, *])
    by_contra hcontrol
    rw [isHidden_of_isControl (by simpa using hcontrol)] at hvisible
    exact absurd hvisible (by decide)

/-! ## Reading back -/

inductive Within where
  | text
  | escape
  /-- A code point is about to begin. -/
  | brace
  /-- The digits so far have a value. -/
  | code (value : Nat)

/-- The text of which the rest is given behind the first quotation mark. -/
def readBack? : Within → List Char → Option (List Char)
  | _, [] => none
  | .text, c :: rest =>
    if c = '"' then if rest = [] then some [] else none
    else if c = '\\' then readBack? .escape rest
    else (readBack? .text rest).map (c :: ·)
  | .escape, letter :: rest =>
    if letter = 'u' then readBack? .brace rest
    else
      match shortForms.find? (·.2 = letter) with
      | some form => (readBack? .text rest).map (form.1 :: ·)
      | none => none
  | .brace, c :: rest => if c = '\x7b' then readBack? (.code 0) rest else none
  | .code value, c :: rest =>
    if c = '\x7d' then (readBack? .text rest).map (Char.ofNat value :: ·)
    else
      match hexValue? c with
      | some digit => readBack? (.code (16 * value + digit)) rest
      | none => none

theorem readBack?_digitChar {value digit : Nat} (h : digit < 16) (rest : List Char) :
    readBack? (.code value) (Nat.digitChar digit :: rest) =
      readBack? (.code (16 * value + digit)) rest := by
  have hread : hexValue? (Nat.digitChar digit) = some digit := Json.hexValue?_digitChar h
  have hbrace : Nat.digitChar digit ≠ '\x7d' := by
    intro hbrace
    rw [hbrace] at hread
    simp [hexValue?] at hread
  rw [readBack?, if_neg hbrace, hread]

theorem readBack?_toDigits (n : Nat) (rest : List Char) :
    readBack? (.code 0) (Nat.toDigits 16 n ++ rest) = readBack? (.code n) rest := by
  induction n using Nat.strongRecOn generalizing rest with
  | ind n ih =>
      rw [Nat.toDigits_eq_if (by decide)]
      split
      · rename_i hlt
        rw [List.singleton_append, readBack?_digitChar hlt, Nat.mul_zero, Nat.zero_add]
      · rename_i hle
        rw [List.append_assoc, ih (n / 16) (by omega), List.singleton_append,
          readBack?_digitChar (Nat.mod_lt n (by decide)), Nat.div_add_mod]

theorem Shown.readBack?_append {c : Char} {piece : List Char} (h : Shown c piece)
    (rest : List Char) :
    readBack? .text (piece ++ rest) = (readBack? .text rest).map (c :: ·) := by
  cases h with
  | plain _ _ bare =>
      have hquote : c ≠ '"' := by
        rintro rfl
        exact bare '"' (by decide)
      have hslash : c ≠ '\\' := by
        rintro rfl
        exact bare '\\' (by decide)
      rw [List.singleton_append, readBack?, if_neg hquote, if_neg hslash]
  | @short letter known =>
      simp only [shortForms, List.mem_cons, Prod.mk.injEq, List.not_mem_nil, or_false] at known
      rcases known with ⟨rfl, rfl⟩ | ⟨rfl, rfl⟩ | ⟨rfl, rfl⟩ | ⟨rfl, rfl⟩ | ⟨rfl, rfl⟩ | ⟨rfl, rfl⟩ <;>
        rfl
  | code =>
      have hbehind : readBack? (.code c.toNat) ('\x7d' :: rest) =
          (readBack? .text rest).map (c :: ·) := by
        rw [readBack?, if_pos rfl, Char.ofNat_toNat]
      rw [← hbehind, ← readBack?_toDigits]
      simp [readBack?]

/-- One text shows another one in quotes. -/
structure Quotes (text shown : String) : Prop where
  pieces : ∃ pieces, List.Forall₂ Shown text.toList pieces ∧
    shown.toList = '"' :: (pieces.flatten ++ ['"'])
  read_back : readBack? .text shown.toList.tail = some text.toList

theorem readBack?_flatten {text : List Char} {pieces : List (List Char)}
    (h : List.Forall₂ Shown text pieces) : readBack? .text (pieces.flatten ++ ['"']) = some text := by
  induction h with
  | nil => rfl
  | cons hshown _ ih =>
      rw [List.flatten_cons, List.append_assoc, hshown.readBack?_append, ih]
      rfl

theorem quotes_quoted (text : String) : Quotes text (quoted text) := by
  have hpieces : List.Forall₂ Shown text.toList (text.toList.map quotedChar) := by
    rw [List.forall₂_map_right_iff]
    exact List.forall₂_same.2 fun c _ => shown_quotedChar c
  have hquoted : (quoted text).toList =
      '"' :: ((text.toList.map quotedChar).flatten ++ ['"']) := by
    rw [quoted, String.toList_ofList, List.flatMap_def]
  refine ⟨⟨_, hpieces, hquoted⟩, ?_⟩
  rw [hquoted]
  exact readBack?_flatten hpieces

example : quoted "1\t\u0085é" = "\"1\\t\\u\x7b85\x7dé\"" := by decide +kernel

end Rollout.Text
