import Mathlib.Data.List.Lex
import Mathlib.Data.String.Basic
import Mathlib.Order.Monotone.Basic

/-!
# The order of bytes

Texts are compared character by character, and this is how their bytes in UTF-8 are compared. The
first byte of a longer form is greater than that of a shorter one, and within a form the leading
bytes hold the higher bits, so that the bytes of two characters differ for the first time where the
character with the greater code point has the greater byte.
-/

namespace Rollout.Text

/-- The bytes of a text in UTF-8. -/
def bytes (text : String) : List Nat := text.toUTF8.data.toList.map UInt8.toNat

def codeBytes (n : Nat) : List Nat :=
  if n ≤ 0x7f then [n]
  else if n ≤ 0x7ff then [0xc0 + n / 64, 0x80 + n % 64]
  else if n ≤ 0xffff then [0xe0 + n / 4096, 0x80 + n / 64 % 64, 0x80 + n % 64]
  else [0xf0 + n / 262144, 0x80 + n / 4096 % 64, 0x80 + n / 64 % 64, 0x80 + n % 64]

theorem val_lt (c : Char) : c.val.toNat < 0x110000 := by
  have hvalid := c.valid
  simp only [UInt32.isValidChar, Nat.isValidChar] at hvalid
  omega

theorem map_utf8EncodeChar (c : Char) :
    (String.utf8EncodeChar c).map UInt8.toNat = codeBytes c.val.toNat := by
  have hlt := val_lt c
  simp only [String.utf8EncodeChar, codeBytes]
  generalize c.val.toNat = n at *
  repeat' split
  all_goals
    simp only [List.map_cons, List.map_nil, UInt8.toNat_ofNat', List.cons.injEq, and_true]
    omega

theorem bytes_eq_flatMap (text : String) :
    bytes text = text.toList.flatMap fun c => codeBytes c.val.toNat := by
  have hdata : text.toUTF8.data.toList = text.toList.flatMap String.utf8EncodeChar := by
    rw [← String.ofList_toList (s := text), String.toUTF8, String.toByteArray_ofList,
      List.utf8Encode, List.toList_data_toByteArray, String.toList_ofList]
  rw [bytes, hdata, List.map_flatMap, funext map_utf8EncodeChar]

theorem codeBytes_ne_nil (n : Nat) : codeBytes n ≠ [] := by
  unfold codeBytes
  repeat' split
  all_goals simp

theorem codeBytes_append_lt {m n : Nat} (h : m < n) (xs ys : List Nat) :
    codeBytes m ++ xs < codeBytes n ++ ys := by
  unfold codeBytes
  repeat' split
  all_goals
    simp only [List.cons_append, List.nil_append, List.cons_lt_cons_iff]
    omega

theorem flatMap_codeBytes_lt {cs ds : List Char} (h : List.Lex (· < ·) cs ds) :
    (cs.flatMap fun c => codeBytes c.val.toNat) < ds.flatMap fun d => codeBytes d.val.toNat := by
  induction h with
  | @nil d ds =>
      obtain ⟨n, ns, hcode⟩ := List.exists_cons_of_ne_nil (codeBytes_ne_nil d.val.toNat)
      rw [List.flatMap_nil, List.flatMap_cons, hcode]
      exact List.nil_lt_cons _ _
  | cons hlex ih =>
      rw [List.flatMap_cons, List.flatMap_cons]
      exact List.append_left_lt ih
  | rel hlt =>
      rw [List.flatMap_cons, List.flatMap_cons]
      exact codeBytes_append_lt hlt _ _

theorem bytes_strictMono : StrictMono bytes := by
  intro a b h
  rw [bytes_eq_flatMap, bytes_eq_flatMap]
  exact flatMap_codeBytes_lt (String.lt_iff_toList_lt.1 h)

theorem bytes_le_bytes_iff {a b : String} : bytes a ≤ bytes b ↔ a ≤ b :=
  bytes_strictMono.le_iff_le

end Rollout.Text
