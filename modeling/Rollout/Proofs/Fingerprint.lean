import Rollout.Proofs.Canonical
import Rollout.Revision

/-!
# What a fingerprint tells

The fingerprint of a spec is taken of its canonical text, so it does not depend on the order of
the keys. Hexadecimal digits lose nothing, so two specs that differ in more than that can have
one fingerprint only if the digests of their texts begin with the same bytes.
-/

namespace Rollout

theorem Text.digitChar_inj {d e : Nat} (hd : d < 16) (he : e < 16)
    (h : Nat.digitChar d = Nat.digitChar e) : d = e := by
  have hvalue := congrArg Text.hexValue? h
  rw [Json.hexValue?_digitChar hd, Json.hexValue?_digitChar he] at hvalue
  exact Option.some.inj hvalue

theorem Text.hex_inj {width m n : Nat} (hm : m < 16 ^ width) (hn : n < 16 ^ width)
    (h : Text.hex width m = Text.hex width n) : m = n := by
  induction width generalizing m n with
  | zero => omega
  | succ width ih =>
      rw [Nat.pow_succ] at hm hn
      obtain ⟨hfirst, hlast⟩ := List.append_inj' h rfl
      have hrest := ih (by omega) (by omega) hfirst
      have hdigit := Text.digitChar_inj (Nat.mod_lt m (by decide)) (Nat.mod_lt n (by decide))
        (List.singleton_inj.1 hlast)
      omega

/-- Two digits for each byte can be read as one list of bytes only. -/
theorem Text.flatMap_hex_inj {xs ys : List UInt8}
    (h : xs.flatMap (fun byte => Text.hex 2 byte.toNat) =
      ys.flatMap fun byte => Text.hex 2 byte.toNat) : xs = ys := by
  induction xs generalizing ys with
  | nil =>
      cases ys with
      | nil => rfl
      | cons y ys => simp [Text.hex] at h
  | cons x xs ih =>
      cases ys with
      | nil => simp [Text.hex] at h
      | cons y ys =>
          rw [List.flatMap_cons, List.flatMap_cons] at h
          obtain ⟨hbyte, hrest⟩ := List.append_inj h (by simp)
          have hxy := Text.hex_inj x.toNat_lt y.toNat_lt hbyte
          rw [UInt8.toNat_inj.1 hxy, ih hrest]

namespace Revision

theorem take_digest_eq_of_ofText_eq {s t : String} (h : ofText s = ofText t) :
    (Sha256.digest s.toUTF8.toList).take 16 = (Sha256.digest t.toUTF8.toList).take 16 := by
  have hhex := (String.append_right_inj "sha256:").1 h
  exact Text.flatMap_hex_inj (String.ofList_inj.1 hhex)

/-- Specs that differ only in the order of their keys have one canonical text and one fingerprint,
and two other specs have two texts: they have one fingerprint only if the digests of these begin
with the same sixteen bytes. It is enough that one of the two specs has no key twice. -/
theorem ofSpec_tells_apart {v w : Json} (hv : v.Distinct) :
    (v.text = w.text ↔ v.Same w) ∧ (v.Same w → ofSpec v = ofSpec w) ∧
      (¬ v.Same w → ofSpec v = ofSpec w → v.text ≠ w.text ∧
        (Sha256.digest v.text.toUTF8.toList).take 16 =
          (Sha256.digest w.text.toUTF8.toList).take 16) := by
  have htext : v.text = w.text ↔ v.Same w := Json.text_eq_iff_same hv
  refine ⟨htext, ?_, ?_⟩
  · intro hsame
    exact congrArg ofText (htext.2 hsame)
  · intro hother hrevision
    exact ⟨fun h => hother (htext.1 h), take_digest_eq_of_ofText_eq hrevision⟩

namespace Sample

def spec : Json :=
  .obj [("image", .str "web:v2"), ("labels", .obj [("b", .ofNat 1), ("a", .arr [.null])])]

def reordered : Json :=
  .obj [("labels", .obj [("a", .arr [.null]), ("b", .ofNat 1)]), ("image", .str "web:v2")]

theorem distinct_spec : spec.Distinct := by
  refine .obj (by decide) ?_
  simp only [List.forall_mem_cons, List.not_mem_nil, false_imp_iff, implies_true, and_true]
  refine ⟨.str _, .obj (by decide) ?_⟩
  simp only [List.forall_mem_cons, List.not_mem_nil, false_imp_iff, implies_true, and_true]
  exact ⟨.num _, .arr (by simpa using .null)⟩

theorem same_reordered : spec.Same reordered := by
  refine .obj (.swap _ _ _) (.refl _) (.cons (.intro _ ?_) (.cons (.intro _ (.str _)) .nil))
  refine .obj (.swap _ _ _) (.refl _) (.cons (.intro _ ?_) (.cons (.intro _ (.num rfl)) .nil))
  exact .arr (.cons .null .nil)

end Sample

/-- Keys in another order at two depths. -/
theorem ofSpec_tells_apart_nested :
    Sample.spec.text = Sample.reordered.text ∧ ofSpec Sample.spec = ofSpec Sample.reordered := by
  obtain ⟨htext, hsame, -⟩ := @ofSpec_tells_apart Sample.spec Sample.reordered Sample.distinct_spec
  exact ⟨htext.2 Sample.same_reordered, hsame Sample.same_reordered⟩

end Revision

end Rollout
