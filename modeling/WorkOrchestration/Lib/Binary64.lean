import Mathlib.Algebra.Order.Round
import Mathlib.Data.Int.Log
import Mathlib.Data.Rat.Floor
import Mathlib.Tactic.FieldSimp
import Mathlib.Tactic.Linarith
import Mathlib.Tactic.Positivity
import Mathlib.Tactic.Ring

/-!
# Double precision arithmetic on clock values

Correctly rounded operations on rational numbers far from the limits of the
exponent range, which is where a clock's seconds and nanoseconds are.  A double
is the rational number it denotes, and an operation is the exact operation
followed by one rounding.
-/

namespace WorkOrchestration.Lib.Binary64

variable (value : ℚ)

/-- The nearest integer, the even one of two equally near ones. -/
def roundHalfEven : ℤ :=
  if 2 * (value - ⌊value⌋) < 1 ∨ 2 * (value - ⌊value⌋) = 1 ∧ Even ⌊value⌋ then ⌊value⌋
  else ⌊value⌋ + 1

/-- The weight of the last of the 53 bits of a double near the value. -/
def ulp : ℚ := (2 : ℚ) ^ (Int.log 2 |value| - 52)

/-- The double nearest to a value. -/
def binary64 : ℚ := roundHalfEven (value / ulp value) * ulp value

theorem abs_roundHalfEven_sub_le : |(roundHalfEven value : ℚ) - value| ≤ 1 / 2 := by
  have below := Int.floor_le value
  have above := Int.lt_floor_add_one value
  unfold roundHalfEven
  split
  · rename_i down
    rw [abs_le]
    rcases down with less | ⟨half, _⟩ <;> constructor <;> linarith
  · rename_i up
    obtain ⟨notLess, _⟩ := not_or.mp up
    rw [abs_le]
    push_cast
    constructor <;> linarith

theorem ulp_pos : 0 < ulp value := zpow_pos (by norm_num) _

theorem abs_binary64_sub_le : |binary64 value - value| ≤ ulp value / 2 := by
  have positive := ulp_pos value
  have near := abs_roundHalfEven_sub_le (value / ulp value)
  have scaled : binary64 value - value =
      ((roundHalfEven (value / ulp value) : ℚ) - value / ulp value) * ulp value := by
    rw [binary64, sub_mul, div_mul_cancel₀ value positive.ne']
  rw [scaled, abs_mul, abs_of_pos positive]
  linarith [mul_le_mul_of_nonneg_right near positive.le]

theorem ulp_le {value : ℚ} (nonzero : value ≠ 0) : ulp value ≤ |value| / 2 ^ 52 := by
  have logarithm : (2 : ℚ) ^ Int.log 2 |value| ≤ |value| := by
    exact_mod_cast Int.zpow_log_le_self (R := ℚ) (b := 2) (by norm_num) (abs_pos.mpr nonzero)
  have split : ulp value = (2 : ℚ) ^ Int.log 2 |value| / 2 ^ 52 := by
    rw [ulp, zpow_sub₀ (by norm_num)]
    norm_num
  rw [split]
  gcongr

/-- An integer that fits into the 53 bits is a double. -/
theorem binary64_natCast {count : ℕ} (small : count < 2 ^ 53) : binary64 (count : ℚ) = count := by
  have bits : Nat.log 2 count ≤ 52 := by
    by_cases zero : count = 0
    · simp [zero]
    · exact Nat.lt_succ_iff.mp (Nat.log_lt_of_lt_pow zero small)
  have weight : ulp (count : ℚ) = ((2 : ℚ) ^ (52 - Nat.log 2 count))⁻¹ := by
    unfold ulp
    rw [abs_of_nonneg (Nat.cast_nonneg count), Int.log_natCast, ← zpow_natCast, ← zpow_neg]
    congr 1
    omega
  have whole : (count : ℚ) / ulp (count : ℚ) = ((count * 2 ^ (52 - Nat.log 2 count) : ℕ) : ℤ) := by
    rw [weight, div_inv_eq_mul]
    push_cast
    rfl
  have exactly (places : ℤ) : roundHalfEven (places : ℚ) = places := by simp [roundHalfEven]
  rw [binary64, whole, exactly, ← whole, div_mul_cancel₀ _ (ulp_pos _).ne']

theorem abs_binary64_sub_le_rel : |binary64 value - value| ≤ |value| / 2 ^ 53 := by
  by_cases zero : value = 0
  · subst zero
    simp [binary64, roundHalfEven]
  · have half := abs_binary64_sub_le value
    have small := ulp_le zero
    calc |binary64 value - value| ≤ ulp value / 2 := half
      _ ≤ |value| / 2 ^ 52 / 2 := by linarith
      _ = |value| / 2 ^ 53 := by ring

end WorkOrchestration.Lib.Binary64
