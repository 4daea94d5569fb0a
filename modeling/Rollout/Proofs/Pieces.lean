import Mathlib.Data.List.Forall2
import Mathlib.InformationTheory.Coding.UniquelyDecodable
import Rollout.Proofs.Escape

/-!
# Escaped strings in pieces

What `escape` writes is cut into pieces, one for each character: most characters stand for
themselves, and the others are written as a sequence that begins with a backslash. The first two
characters of a piece tell how long it is (`Piece.width_append`), so that a reader who goes from
left to right finds these pieces, and there is no other way to cut the text
(`uniquelyDecodable_piece`).
-/

namespace Rollout.Json

def lowerHex : List Char :=
  ['0', '1', '2', '3', '4', '5', '6', '7', '8', '9', 'a', 'b', 'c', 'd', 'e', 'f']

/-- The pieces of a text inside the quotes. -/
inductive Piece : List Char → Prop where
  | plain {c : Char} (no_quote : c ≠ '"') (no_slash : c ≠ '\\') (no_control : isControl c = false) :
      Piece [c]
  | short {letter : Char} (known : letter ∈ ['"', '\\', 'n', 'r', 't']) : Piece ['\\', letter]
  | unit {digits : List Char} (four : digits.length = 4) (lower : ∀ c ∈ digits, c ∈ lowerHex) :
      Piece ('\\' :: 'u' :: digits)

/-- A piece is read as a character, whatever comes behind it. -/
def ReadsAs (p : List Char) (c : Char) : Prop :=
  ∀ rest, unescape (p ++ rest) = (unescape rest).map fun found => (c :: found.1, found.2)

/-- How long the piece is that a text begins with. -/
def width : List Char → Nat
  | '\\' :: 'u' :: _ => 6
  | '\\' :: _ => 2
  | _ => 1

theorem digitChar_mem_lowerHex {d : Nat} (h : d < 16) : Nat.digitChar d ∈ lowerHex := by
  interval_cases d <;> decide

theorem mem_lowerHex_of_mem_hex {digits n : Nat} {c : Char} (h : c ∈ Text.hex digits n) :
    c ∈ lowerHex := by
  induction digits generalizing n with
  | zero => simp [Text.hex] at h
  | succ digits ih =>
      rw [Text.hex, List.mem_append, List.mem_singleton] at h
      rcases h with h | rfl
      · exact ih h
      · exact digitChar_mem_lowerHex (Nat.mod_lt n (by decide))

theorem piece_escapeChar (c : Char) : Piece (escapeChar c) := by
  unfold escapeChar
  split_ifs with hquote hslash _ _ _ hcontrol
  · exact .short (by decide)
  · exact .short (by decide)
  · exact .short (by decide)
  · exact .short (by decide)
  · exact .short (by decide)
  · exact .unit (Text.hex_length 4 _) fun _ => mem_lowerHex_of_mem_hex
  · exact .plain hquote hslash (by simpa using hcontrol)

namespace Piece

variable {p q a b : List Char}

theorem no_control (hp : Piece p) : ∀ c ∈ p, isControl c = false := by
  cases hp with
  | plain _ _ no_control => simpa using no_control
  | short known =>
      have hletters : ∀ c ∈ ['"', '\\', 'n', 'r', 't'], isControl c = false := by
        simp [isControl]
      simpa using ⟨rfl, hletters _ known⟩
  | unit _ lower =>
      have hdigits : ∀ c ∈ lowerHex, isControl c = false := by simp [lowerHex, isControl]
      simpa using ⟨rfl, rfl, fun c hc => hdigits c (lower c hc)⟩

theorem width_append (hp : Piece p) (rest : List Char) : width (p ++ rest) = p.length := by
  cases hp with
  | plain _ no_slash => simp [width, no_slash]
  | @short letter known =>
      have hletter : letter ≠ 'u' := by
        rintro rfl
        exact absurd known (by decide)
      simp [width, hletter]
  | unit four => simp [width, four]

theorem ne_nil (hp : Piece p) : p ≠ [] := by
  cases hp <;> simp

/-- No piece is the beginning of another one. -/
theorem eq_of_append (hp : Piece p) (hq : Piece q) (h : p ++ a = q ++ b) : p = q := by
  have hlength : p.length = q.length := by
    rw [← hp.width_append a, h, hq.width_append b]
  exact List.append_inj_left h hlength

end Piece

theorem uniquelyDecodable_piece : InformationTheory.UniquelyDecodable {p | Piece p} := by
  intro ps qs hps hqs h
  induction ps generalizing qs with
  | nil =>
      cases qs with
      | nil => rfl
      | cons q qs =>
          have hq : q = [] := (List.append_eq_nil_iff.1 h.symm).1
          exact absurd hq (hqs q List.mem_cons_self).ne_nil
  | cons p ps ih =>
      obtain ⟨hp, hps'⟩ := List.forall_mem_cons.1 hps
      cases qs with
      | nil => exact absurd (List.append_eq_nil_iff.1 h).1 hp.ne_nil
      | cons q qs =>
          obtain ⟨hq, hqs'⟩ := List.forall_mem_cons.1 hqs
          rw [List.flatten_cons, List.flatten_cons] at h
          -- Both begin with the same piece, and what is left is cut in one way only.
          obtain rfl := hp.eq_of_append hq h
          rw [ih qs hps' hqs' (List.append_cancel_left h)]

theorem readsAs_escapeChar (c : Char) : ReadsAs (escapeChar c) c :=
  (escaped_escapeChar c).unescape_append

/-- A text inside the quotes in the pieces that a reader finds from left to right, each of which
is read as one character of the text that is meant. It can be cut into pieces in no other way. -/
structure Cut (text written : List Char) (pieces : List (List Char)) : Prop where
  flatten_eq : pieces.flatten = written
  piece : ∀ p ∈ pieces, Piece p
  reads : List.Forall₂ ReadsAs pieces text
  unique : ∀ others, (∀ p ∈ others, Piece p) → others.flatten = written → others = pieces

theorem cut_escape (text : List Char) : Cut text (escape text) (text.map escapeChar) := by
  have hflatten : (text.map escapeChar).flatten = escape text := List.flatMap_def.symm
  have hpieces : ∀ p ∈ text.map escapeChar, Piece p :=
    List.forall_mem_map.2 fun c _ => piece_escapeChar c
  refine ⟨hflatten, hpieces, ?_, ?_⟩
  · exact List.forall₂_map_left_iff.2 (List.forall₂_same.2 fun c _ => readsAs_escapeChar c)
  · intro others hothers h
    exact uniquelyDecodable_piece others _ hothers hpieces (h.trans hflatten.symm)

/-- How a text is written inside the quotes: without characters of category Cc, in pieces, and so
that a reader gets it back and stops at the quote behind it. -/
structure Delimited (text written : List Char) : Prop where
  no_control : ∀ c ∈ written, ¬(c.toNat ≤ 0x1f ∨ 0x7f ≤ c.toNat ∧ c.toNat ≤ 0x9f)
  cut : ∃ pieces, Cut text written pieces
  read_back : ∀ rest, unescape (written ++ '"' :: rest) = some (text, rest)

theorem delimited_escape (text : List Char) : Delimited text (escape text) where
  no_control c hc := by
    obtain ⟨d, -, hd⟩ := List.mem_flatMap.1 hc
    have hfalse := (piece_escapeChar d).no_control c hd
    simp only [isControl, Bool.or_eq_false_iff, Bool.and_eq_false_iff, decide_eq_false_iff_not]
      at hfalse
    omega
  cut := ⟨_, cut_escape text⟩
  read_back := unescape_escape text

/-- Escaped strings can be read back, and show where they end: two of them with a quote behind and
any texts after that are equal only if the strings are, and the texts. -/
theorem escape_self_delimiting (s : String) :
    Delimited s.toList (escape s.toList) ∧
      ∀ (t : String) (a b : List Char),
        escape s.toList ++ '"' :: a = escape t.toList ++ '"' :: b ↔ s = t ∧ a = b := by
  refine ⟨delimited_escape s.toList, fun t a b => ⟨fun h => ?_, ?_⟩⟩
  · have hquote : quote s ++ a = quote t ++ b := by simpa [quote] using h
    exact quote_append_inj hquote
  · rintro ⟨rfl, rfl⟩
    rfl

/-- What looks like an escape is a text like any other. -/
example : escape "\\u0085\x85".toList = "\\\\u0085\\u0085".toList := by decide

end Rollout.Json
