import Rollout.Json.Canonical
import Rollout.Sha256

/-!
# Revisions

Every instance carries the fingerprint of the spec it was created from; a revision is such a
fingerprint. Specs that differ only in the order of their keys have the same one.
-/

namespace Rollout

/-- The fingerprint of the spec that an instance was created from. -/
abbrev Revision := String

namespace Revision

def keptBytes : Nat := 16

def ofText (text : String) : Revision :=
  let kept := (Sha256.digest text.toUTF8.toList).take keptBytes
  "sha256:" ++ String.ofList (kept.flatMap fun byte => Text.hex 2 byte.toNat)

/-- The fingerprint of a spec, taken of its canonical text. -/
def ofSpec (spec : Json) : Revision := ofText spec.text

end Revision

end Rollout
