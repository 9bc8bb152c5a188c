/-!
# Sets of characters as ranges

Tables of characters are lists of inclusive ranges of code points in ascending
order.
-/

namespace PushRelay.Text

/-- Whether `n` lies in one of the ranges. -/
def inRanges : List (Nat × Nat) → Nat → Bool
  | [], _ => false
  | (low, high) :: rest, n => (low ≤ n && n ≤ high) || inRanges rest n

end PushRelay.Text
