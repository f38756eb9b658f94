import FabricConfig.Binary64
import Mathlib.Algebra.Group.Nat.Defs
/-!
# The range of double precision, compared

* `exceeds_iff`: the comparison with the bound is exact, though it looks at the number of digits
  first and so raises ten to no great power.
-/

namespace FabricConfig.Binary64

/-- A number of 308 digits is below the bound, and one of 310 digits is above it. -/
theorem bound_between : 10 ^ 308 < bound ∧ bound < 10 ^ 309 := by decide +kernel

/-- The comparison with the bound is exact. -/
theorem exceeds_iff (significand : Nat) (exponent : Int) :
    exceeds significand exponent = true ↔
      bound * 10 ^ (-exponent).toNat ≤ significand * 10 ^ exponent.toNat := by
  obtain ⟨low, isLow, above⟩ : ∃ low, low = 308 ∧ 10 ^ low < bound :=
    ⟨_, rfl, bound_between.1⟩
  obtain ⟨high, isHigh, below⟩ : ∃ high, high = 309 ∧ bound < 10 ^ high :=
    ⟨_, rfl, bound_between.2⟩
  have digits := Nat.length_toDigits_pos (b := 10) (n := significand)
  have small := (Nat.length_toDigits_le_iff (by decide) digits).mp (Nat.le_refl _)
  have scale : 0 < 10 ^ (-exponent).toNat := Nat.pow_pos (by decide)
  unfold exceeds
  dsimp only
  generalize count : (Nat.toDigits 10 significand).length = length at *
  split
  · rename_i out
    refine ⟨nofun, fun reached => absurd reached (Nat.not_le.mpr ?_)⟩
    rcases out with zero | short
    · subst zero
      rw [Nat.zero_mul]
      exact Nat.mul_pos (Nat.zero_lt_of_lt above) scale
    · calc
        _ ≤ 10 ^ length * 10 ^ exponent.toNat := Nat.mul_le_mul_right _ (Nat.le_of_lt small)
        _ ≤ 10 ^ low * 10 ^ (-exponent).toNat := by
          rw [← Nat.pow_add, ← Nat.pow_add]
          exact Nat.pow_le_pow_right (by decide) (by omega)
        _ < _ := Nat.mul_lt_mul_of_pos_right above scale
  · rename_i inside
    split
    · rename_i long
      refine ⟨fun _ => ?_, fun _ => rfl⟩
      have least : 10 ^ (length - 1) ≤ significand := by
        by_cases one : length = 1
        · subst one
          exact Nat.pos_of_ne_zero fun zero => inside (.inl zero)
        · have short := Nat.length_toDigits_le_iff (b := 10) (n := significand)
            (k := length - 1) (by decide) (by omega)
          rw [count] at short
          omega
      calc
        _ ≤ 10 ^ high * 10 ^ (-exponent).toNat := Nat.mul_le_mul_right _ (Nat.le_of_lt below)
        _ ≤ 10 ^ (length - 1) * 10 ^ exponent.toNat := by
          rw [← Nat.pow_add, ← Nat.pow_add]
          exact Nat.pow_le_pow_right (by decide) (by omega)
        _ ≤ _ := Nat.mul_le_mul_right _ least
    · exact decide_eq_true_iff

end FabricConfig.Binary64
