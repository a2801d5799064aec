import WorkOrchestration.Lib.Binary64

/-!
# Decimal arithmetic of bounded precision

A decimal is the rational number it denotes, and an operation is the exact operation followed by
one rounding, to the context's number of significant digits and half to even.  Rounding keeps
order and sign, leaves short numbers alone and is off by half a unit of the last digit at most.
-/

namespace WorkOrchestration.Lib.DecimalContext

open Binary64
open Int (log)

variable (digits : Nat)

/-- The weight of the last significant digit of a value. -/
def unit (value : ℚ) : ℚ := (10 : ℚ) ^ (log 10 |value| - digits + 1)

/-- A value as the context keeps it. -/
def rounded (value : ℚ) : ℚ := roundHalfEven (value / unit digits value) * unit digits value

/-- The value has no more significant digits than the context. -/
def Fits (value : ℚ) : Prop :=
  ∃ (coefficient : ℤ) (exponent : ℤ),
    |coefficient| < 10 ^ digits ∧ value = coefficient * (10 : ℚ) ^ exponent

@[simp]
theorem roundHalfEven_intCast (value : ℤ) : roundHalfEven value = value := by
  simp [roundHalfEven]

theorem roundHalfEven_mono {left right : ℚ} (ordered : left ≤ right) :
    roundHalfEven left ≤ roundHalfEven right := by
  by_contra crossed
  have after : roundHalfEven right + 1 ≤ roundHalfEven left := Int.add_one_le_of_lt (not_le.mp crossed)
  have afterward : (roundHalfEven right : ℚ) + 1 ≤ roundHalfEven left := by exact_mod_cast after
  have nearLeft := abs_le.mp (abs_roundHalfEven_sub_le left)
  have nearRight := abs_le.mp (abs_roundHalfEven_sub_le right)
  -- Both are half way between the two integers, hence equal.
  have same : left = right := by linarith [nearLeft.2, nearRight.1]
  rw [same] at crossed
  exact crossed le_rfl

variable {value : ℚ}

theorem le_roundHalfEven {bound : ℤ} (above : (bound : ℚ) ≤ value) :
    bound ≤ roundHalfEven value := by
  simpa using roundHalfEven_mono above

theorem roundHalfEven_le {bound : ℤ} (below : value ≤ bound) : roundHalfEven value ≤ bound := by
  simpa using roundHalfEven_mono below

theorem unit_pos (value : ℚ) : 0 < unit digits value := zpow_pos (by norm_num) _

theorem zpow_log_le (nonzero : value ≠ 0) : (10 : ℚ) ^ log 10 |value| ≤ |value| := by
  exact_mod_cast Int.zpow_log_le_self (R := ℚ) (b := 10) (by norm_num) (abs_pos.mpr nonzero)

theorem lt_zpow_log (value : ℚ) : |value| < (10 : ℚ) ^ (log 10 |value| + 1) := by
  exact_mod_cast Int.lt_zpow_succ_log_self (R := ℚ) (b := 10) (by norm_num) |value|

theorem zpow_log_eq (value : ℚ) :
    (10 : ℚ) ^ (log 10 |value| + 1) = 10 ^ digits * unit digits value := by
  rw [unit, ← zpow_natCast, ← zpow_add₀ (by norm_num)]
  congr 1
  ring

theorem unit_le_zpow {coefficient exponent : ℤ} (short : |coefficient| < 10 ^ digits)
    (nonzero : value ≠ 0) (written : value = coefficient * (10 : ℚ) ^ exponent) :
    log 10 |value| - digits + 1 ≤ exponent := by
  have small : (|coefficient| : ℚ) < 10 ^ digits := by exact_mod_cast short
  have size : |value| < (10 : ℚ) ^ ((digits : ℤ) + exponent) := by
    rw [written, abs_mul, abs_of_pos (zpow_pos (by norm_num : (0 : ℚ) < 10) exponent),
      zpow_add₀ (by norm_num), zpow_natCast]
    exact mul_lt_mul_of_pos_right small (zpow_pos (by norm_num) exponent)
  have less := (zpow_log_le nonzero).trans_lt size
  have order := (zpow_lt_zpow_iff_right₀ (by norm_num : (1 : ℚ) < 10)).mp less
  omega

@[simp]
theorem rounded_zero : rounded digits 0 = 0 := by
  simp [rounded, roundHalfEven]

theorem rounded_of_fits (fits : Fits digits value) : rounded digits value = value := by
  by_cases zero : value = 0
  · rw [zero, rounded_zero]
  · obtain ⟨coefficient, exponent, short, written⟩ := fits
    have places := unit_le_zpow digits short zero written
    have whole : value / unit digits value =
        (coefficient * 10 ^ (exponent - (log 10 |value| - digits + 1)).toNat : ℤ) := by
      rw [div_eq_iff (unit_pos digits value).ne']
      conv_lhs => rw [written]
      rw [unit]
      push_cast
      rw [mul_assoc, ← zpow_natCast, ← zpow_add₀ (by norm_num), Int.toNat_of_nonneg (by omega),
        sub_add_cancel]
    rw [rounded, whole, roundHalfEven_intCast, ← whole, div_mul_cancel₀ _ (unit_pos digits value).ne']

theorem rounded_nonneg (nonneg : 0 ≤ value) : 0 ≤ rounded digits value := by
  have scaled : ((0 : ℤ) : ℚ) ≤ value / unit digits value := by
    simpa using div_nonneg nonneg (unit_pos digits value).le
  have whole : (0 : ℚ) ≤ roundHalfEven (value / unit digits value) := by
    exact_mod_cast le_roundHalfEven scaled
  exact mul_nonneg whole (unit_pos digits value).le

theorem rounded_le_zpow : rounded digits value ≤ (10 : ℚ) ^ (log 10 |value| + 1) := by
  have positive := unit_pos digits value
  have below : value / unit digits value ≤ ((10 ^ digits : ℤ) : ℚ) := by
    rw [div_le_iff₀ positive]
    push_cast
    rw [← zpow_log_eq]
    exact (le_abs_self value).trans (lt_zpow_log value).le
  have whole : (roundHalfEven (value / unit digits value) : ℚ) ≤ 10 ^ digits := by
    exact_mod_cast roundHalfEven_le below
  rw [zpow_log_eq digits]
  exact mul_le_mul_of_nonneg_right whole positive.le

variable {digits} in
theorem zpow_log_eq_pred (present : 0 < digits) (value : ℚ) :
    (10 : ℚ) ^ log 10 |value| = 10 ^ (digits - 1) * unit digits value := by
  rw [unit, ← zpow_natCast, ← zpow_add₀ (by norm_num)]
  congr 1
  omega

variable {digits} in
theorem zpow_le_rounded (present : 0 < digits) (positive : 0 < value) :
    (10 : ℚ) ^ log 10 |value| ≤ rounded digits value := by
  have weight := unit_pos digits value
  have above : ((10 ^ (digits - 1) : ℤ) : ℚ) ≤ value / unit digits value := by
    rw [le_div_iff₀ weight]
    push_cast
    rw [← zpow_log_eq_pred present]
    exact (zpow_log_le positive.ne').trans_eq (abs_of_pos positive)
  have whole : (10 : ℚ) ^ (digits - 1) ≤ roundHalfEven (value / unit digits value) := by
    exact_mod_cast le_roundHalfEven above
  rw [zpow_log_eq_pred present]
  exact mul_le_mul_of_nonneg_right whole weight.le

variable {digits} in
theorem rounded_mono (present : 0 < digits) {left right : ℚ} (nonneg : 0 ≤ left)
    (ordered : left ≤ right) : rounded digits left ≤ rounded digits right := by
  rcases nonneg.eq_or_lt with zero | positive
  · rw [← zero, rounded_zero]
    exact rounded_nonneg digits (nonneg.trans ordered)
  · have larger := positive.trans_le ordered
    have logs : log 10 |left| ≤ log 10 |right| := by
      rw [abs_of_pos positive, abs_of_pos larger]
      exact Int.log_mono_right positive ordered
    rcases logs.eq_or_lt with same | apart
    · have units : unit digits left = unit digits right := by rw [unit, unit, same]
      have scaled : left / unit digits right ≤ right / unit digits right :=
        div_le_div_of_nonneg_right ordered (unit_pos digits right).le
      rw [rounded, rounded, units]
      exact mul_le_mul_of_nonneg_right (by exact_mod_cast roundHalfEven_mono scaled)
        (unit_pos digits right).le
    · calc rounded digits left ≤ (10 : ℚ) ^ (log 10 |left| + 1) := rounded_le_zpow digits
        _ ≤ (10 : ℚ) ^ log 10 |right| := zpow_le_zpow_right₀ (by norm_num) (by omega)
        _ ≤ rounded digits right := zpow_le_rounded present larger

variable {digits} in
/-- Rounding keeps the sign. -/
theorem rounded_nonneg_iff (present : 0 < digits) : 0 ≤ rounded digits value ↔ 0 ≤ value := by
  refine ⟨fun kept => ?_, rounded_nonneg digits⟩
  by_contra negative
  have below := not_le.mp negative
  have weight := unit_pos digits value
  -- A negative value has at least its leading digit left.
  have leading : value / unit digits value ≤ ((-1 : ℤ) : ℚ) := by
    have size := zpow_log_le below.ne
    rw [zpow_log_eq_pred present, abs_of_neg below] at size
    have least : (1 : ℚ) * unit digits value ≤ 10 ^ (digits - 1) * unit digits value :=
      mul_le_mul_of_nonneg_right (one_le_pow₀ (by norm_num)) weight.le
    rw [div_le_iff₀ weight]
    push_cast
    linarith
  have whole : (roundHalfEven (value / unit digits value) : ℚ) ≤ -1 := by
    exact_mod_cast roundHalfEven_le leading
  have scaled := mul_le_mul_of_nonneg_right whole weight.le
  rw [rounded] at kept
  linarith

/-- The error of a rounding is half a unit of the last of the digits at most. -/
theorem abs_rounded_sub_le (value : ℚ) :
    |rounded digits value - value| ≤ 5 / 10 ^ digits * |value| := by
  by_cases zero : value = 0
  · simp [zero]
  · have positive := unit_pos digits value
    have near := abs_roundHalfEven_sub_le (value / unit digits value)
    have scaled : rounded digits value - value =
        ((roundHalfEven (value / unit digits value) : ℚ) - value / unit digits value) *
          unit digits value := by
      rw [rounded, sub_mul, div_mul_cancel₀ value positive.ne']
    have size := zpow_log_le zero
    have weight : unit digits value = 10 / 10 ^ digits * (10 : ℚ) ^ log 10 |value| := by
      rw [unit, zpow_add₀ (by norm_num), zpow_sub₀ (by norm_num), zpow_natCast]
      field_simp
    have error : |rounded digits value - value| ≤ 1 / 2 * unit digits value := by
      rw [scaled, abs_mul, abs_of_pos positive]
      exact mul_le_mul_of_nonneg_right near positive.le
    have factor : (0 : ℚ) ≤ 5 / 10 ^ digits := by positivity
    calc |rounded digits value - value| ≤ 1 / 2 * unit digits value := error
      _ = 5 / 10 ^ digits * (10 : ℚ) ^ log 10 |value| := by rw [weight]; ring
      _ ≤ 5 / 10 ^ digits * |value| := mul_le_mul_of_nonneg_left size factor

end WorkOrchestration.Lib.DecimalContext
