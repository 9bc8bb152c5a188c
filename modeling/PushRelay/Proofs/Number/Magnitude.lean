import Mathlib.Algebra.Order.Ring.Nat
import PushRelay.Number.Binary64

/-!
# How large doubles are

A double that has come of a rounding has a mantissa and an exponent within
bounds, so the whole number in front of its point has a limited number of digits.
-/

namespace PushRelay

theorem roundHalfEven_le (num den : Nat) : roundHalfEven num den ≤ num / den + 1 := by
  unfold roundHalfEven
  dsimp only
  split <;> omega

namespace Binary64

/-- The exponent is at least what the binary logarithms make it. -/
theorem le_unitExponent (num den : Nat) :
    (Nat.log2 num : Int) - Nat.log2 den - 53 ≤ unitExponent num den := by
  unfold unitExponent
  dsimp only
  split <;> omega

/-- At such an exponent a quotient has at most 54 binary digits. -/
theorem scaled_div_lt {num den : Nat} {e : Int}
    (h : (Nat.log2 num : Int) - Nat.log2 den - 53 ≤ e) :
    (scaled num den e).1 / (scaled num den e).2 < 2 ^ 54 := by
  rcases Nat.eq_zero_or_pos den with rfl | hden
  · unfold scaled
    split <;> simp
  have hnum : num < 2 ^ (Nat.log2 num + 1) := Nat.lt_log2_self
  have hlog : 2 ^ Nat.log2 den ≤ den := Nat.log2_self_le (Nat.ne_of_gt hden)
  unfold scaled
  split
  · refine Nat.div_lt_of_lt_mul ?_
    calc num < 2 ^ (Nat.log2 num + 1) := hnum
      _ ≤ 2 ^ (Nat.log2 den + e.toNat + 54) := Nat.pow_le_pow_right (by decide) (by omega)
      _ = 2 ^ Nat.log2 den * 2 ^ e.toNat * 2 ^ 54 := by rw [Nat.pow_add, Nat.pow_add]
      _ ≤ den * 2 ^ e.toNat * 2 ^ 54 := Nat.mul_le_mul_right _ (Nat.mul_le_mul_right _ hlog)
  · refine Nat.div_lt_of_lt_mul ?_
    calc num * 2 ^ (-e).toNat < 2 ^ (Nat.log2 num + 1) * 2 ^ (-e).toNat :=
          Nat.mul_lt_mul_of_pos_right hnum (Nat.pow_pos (by decide))
      _ = 2 ^ (Nat.log2 num + 1 + (-e).toNat) := (Nat.pow_add ..).symm
      _ ≤ 2 ^ (Nat.log2 den + 54) := Nat.pow_le_pow_right (by decide) (by omega)
      _ = 2 ^ Nat.log2 den * 2 ^ 54 := Nat.pow_add ..
      _ ≤ den * 2 ^ 54 := Nat.mul_le_mul_right _ hlog

/-- The mantissa and the exponent, if there are any, are within bounds. -/
def Bounded : Binary64 → Prop
  | .finite _ mantissa exponent => mantissa ≤ 2 ^ 54 ∧ exponent ≤ 971
  | .nan | .infinite _ => True

theorem bounded_finite {negative : Bool} {m : Nat} {e : Int} (hm : m ≤ 2 ^ 54) :
    (if 971 < e then .infinite negative else .finite negative m e : Binary64).Bounded := by
  split
  · trivial
  · exact ⟨hm, by omega⟩

theorem bounded_ofRatio (negative : Bool) (num den : Nat) :
    (ofRatio negative num den).Bounded := by
  have hround : roundHalfEven (scaled num den (unitExponent num den)).1
      (scaled num den (unitExponent num den)).2 ≤ 2 ^ 54 :=
    Nat.le_trans (roundHalfEven_le ..) (scaled_div_lt (le_unitExponent num den))
  unfold ofRatio
  split
  · exact ⟨Nat.zero_le _, by decide⟩
  · dsimp only
    split
    · exact bounded_finite (Nat.pow_le_pow_right (by decide) (by decide))
    · exact bounded_finite hround

theorem bounded_scaleBy (x : Binary64) (k : Nat) : (x.scaleBy k).Bounded := by
  cases x with
  | finite negative m e => exact bounded_ofRatio ..
  | _ => trivial

theorem magnitude_le {m a b : Nat} {e : Int} (hm : m ≤ 2 ^ a) (he : e ≤ b) :
    (magnitude m e).1 ≤ 2 ^ (a + b) := by
  unfold magnitude
  split
  · rw [Nat.pow_add]
    exact Nat.mul_le_mul hm (Nat.pow_le_pow_right (by decide) (by omega))
  · exact Nat.le_trans hm (Nat.pow_le_pow_right (by decide) (Nat.le_add_right a b))

theorem natAbs_truncate_le {x : Binary64} {k : Int} (hx : x.Bounded)
    (h : x.truncate? = some k) : k.natAbs ≤ 2 ^ (54 + 971) := by
  cases x with
  | finite negative m e =>
    obtain ⟨hm, he⟩ := hx
    have hk : Int.tdiv (if negative then -((magnitude m e).1 : Int) else (magnitude m e).1)
        (magnitude m e).2 = k := Option.some.inj h
    have hsign : (if negative then -((magnitude m e).1 : Int) else (magnitude m e).1).natAbs =
        (magnitude m e).1 := by
      split <;> simp
    rw [← hk, Int.natAbs_tdiv, hsign]
    exact Nat.le_trans (Nat.div_le_self _ _) (magnitude_le hm he)
  | _ => cases h

end Binary64
end PushRelay
