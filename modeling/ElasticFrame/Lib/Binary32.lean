import ElasticFrame.Lib.FloatOps

/-!
Rounding to `binary32`, on the rationals: to the nearest multiple of the unit in
the last place, ties to even, with gradual underflow. The exponent has no upper
end, so there is no overflow.
-/

namespace ElasticFrame.Lib.Binary32

/-- The nearest integer, ties to even. -/
def roundEven (q : ℚ) : ℤ :=
  if q - ⌊q⌋ < 1 / 2 ∨ q - ⌊q⌋ = 1 / 2 ∧ ⌊q⌋ % 2 = 0 then ⌊q⌋ else ⌊q⌋ + 1

/-- The exponent of the unit in the last place. -/
def exponent (q : ℚ) : ℤ := max (Int.log 2 |q|) (-126) - 23

def float (q : ℚ) : ℚ := roundEven (q / 2 ^ exponent q) * 2 ^ exponent q

/-- The operations are the exact ones, rounded. -/
instance : FloatOps ℚ where
  ofInt n := float n
  add x y := float (x + y)
  mul x y := float (x * y)
  div x y := float (x / y)

/-! ### The error -/

theorem abs_roundEven_sub_le (q : ℚ) : |roundEven q - q| ≤ 1 / 2 := by
  have hle := Int.floor_le q
  have hlt := Int.lt_floor_add_one q
  rw [roundEven, abs_le]
  split_ifs with h
  · have hhalf : q - ⌊q⌋ ≤ 1 / 2 := h.elim le_of_lt fun h => h.1.le
    constructor <;> linarith
  · have hhalf : 1 / 2 ≤ q - ⌊q⌋ := not_lt.mp fun hlt => h (.inl hlt)
    push_cast
    constructor <;> linarith

theorem abs_float_sub_le (q : ℚ) : |float q - q| ≤ 1 / 2 * 2 ^ exponent q := by
  have hpos : (0 : ℚ) < 2 ^ exponent q := zpow_pos (by norm_num) _
  have hsplit : float q - q = (roundEven (q / 2 ^ exponent q) - q / 2 ^ exponent q) *
      2 ^ exponent q := by
    rw [sub_mul, div_mul_cancel₀ _ hpos.ne']
    rfl
  rw [hsplit, abs_mul, abs_of_pos hpos]
  exact mul_le_mul_of_nonneg_right (abs_roundEven_sub_le _) hpos.le

theorem near_float {q : ℚ} (h : FloatOps.Normal q) : FloatOps.Near (float q) q := by
  rcases h with rfl | h
  · have hzero : float 0 = 0 := by
      rw [float, zero_div, roundEven]
      simp
    rw [hzero]
    exact FloatOps.near_self 0
  · have hcast : ((2 ^ 126 : ℕ) : ℚ) = 2 ^ (126 : ℤ) := by norm_num
    have hlow : (2 : ℚ) ^ (-126 : ℤ) ≤ |q| := by
      rw [zpow_neg, inv_le_iff_one_le_mul₀ (zpow_pos (by norm_num) _), ← hcast]
      exact h
    have hpos : 0 < |q| := lt_of_lt_of_le (zpow_pos (by norm_num) _) hlow
    have hlog : -126 ≤ Int.log 2 |q| :=
      (Int.zpow_le_iff_le_log (by norm_num) hpos).mp (by exact_mod_cast hlow)
    have hle : (2 : ℚ) ^ Int.log 2 |q| ≤ |q| := by
      exact_mod_cast Int.zpow_log_le_self (b := 2) (by norm_num) hpos
    have hexponent : exponent q = Int.log 2 |q| - 23 := by rw [exponent, max_eq_left hlog]
    rw [FloatOps.Near]
    calc |float q - q| * ((2 ^ 24 : ℕ) : ℚ)
        ≤ 1 / 2 * 2 ^ exponent q * ((2 ^ 24 : ℕ) : ℚ) :=
          mul_le_mul_of_nonneg_right (abs_float_sub_le q) (by positivity)
      _ = 2 ^ Int.log 2 |q| := by
          rw [hexponent, zpow_sub₀ (by norm_num)]
          norm_num
          ring
      _ ≤ |q| := hle

instance : FloatOps.Accurate ℚ := by
  refine ⟨fun n => ?_, fun x y h => near_float h, fun x y h => near_float h,
    fun x y _ h => near_float h⟩
  apply near_float
  by_cases hn : n = 0
  · exact .inl (by rw [hn, Int.cast_zero])
  · refine .inr ?_
    have hone : (1 : ℚ) ≤ |(n : ℚ)| := by exact_mod_cast Int.one_le_abs hn
    calc (1 : ℚ) = 1 * 1 := (one_mul 1).symm
      _ ≤ |(n : ℚ)| * ((2 ^ 126 : ℕ) : ℚ) :=
        mul_le_mul hone (by norm_num) zero_le_one (abs_nonneg _)

example : float (7 / 10) = 11744051 / 16777216 := by decide +kernel

end ElasticFrame.Lib.Binary32
