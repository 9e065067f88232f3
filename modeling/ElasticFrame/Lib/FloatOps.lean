import Mathlib

/-!
Floating point arithmetic on the numbers of a field. The operations are whatever
the hardware makes of them; what is proved about a program holds for any of them,
for exact ones, or for those that are accurate to 24 bits.
-/

namespace ElasticFrame.Lib

/-- The operations of `float` on the numbers it can have. -/
class FloatOps (F : Type*) where
  /-- The conversion of an integer. -/
  ofInt : ℤ → F
  add : F → F → F
  mul : F → F → F
  div : F → F → F

namespace FloatOps

/-- The quotient of two integers. That of small ones is rounded as a literal is:
`0.7f` is `ratio 7 10`. -/
def ratio {F : Type*} [FloatOps F] (n d : ℤ) : F := div (ofInt n) (ofInt d)

/-! ### Exact operations -/

/-- Nothing is rounded. -/
class Exact (F : Type*) [Field F] [FloatOps F] : Prop where
  ofInt_eq (n : ℤ) : (ofInt n : F) = n
  add_eq (x y : F) : add x y = x + y
  mul_eq (x y : F) : mul x y = x * y
  div_eq (x y : F) : div x y = x / y

@[reducible] def exact (F : Type*) [Field F] : FloatOps F where
  ofInt n := n
  add x y := x + y
  mul x y := x * y
  div x y := x / y

instance (F : Type*) [Field F] : @Exact F _ (exact F) :=
  letI := exact F
  ⟨fun _ => rfl, fun _ _ => rfl, fun _ _ => rfl, fun _ _ => rfl⟩

theorem Exact.ratio_eq {F : Type*} [Field F] [FloatOps F] [Exact F] (n d : ℤ) :
    (ratio n d : F) = n / d := by
  rw [ratio, Exact.div_eq, Exact.ofInt_eq, Exact.ofInt_eq]

/-! ### Accurate operations -/

section Accurate

variable {F : Type*} [Field F] [LinearOrder F]

/-- `x` is `r` up to one part in `2 ^ 24`. -/
def Near (x r : F) : Prop := |x - r| * ((2 ^ 24 : ℕ) : F) ≤ |r|

/-- The result is zero or not below the smallest normal number. -/
def Normal (r : F) : Prop := r = 0 ∨ 1 ≤ |r| * ((2 ^ 126 : ℕ) : F)

variable (F)

/-- Every result that does not underflow has an error of at most one part in
`2 ^ 24`. -/
class Accurate [FloatOps F] : Prop where
  ofInt_near (n : ℤ) : Near (ofInt n : F) n
  add_near (x y : F) : Normal (x + y) → Near (add x y) (x + y)
  mul_near (x y : F) : Normal (x * y) → Near (mul x y) (x * y)
  div_near (x y : F) : y ≠ 0 → Normal (x / y) → Near (div x y) (x / y)

variable {F} [IsStrictOrderedRing F]

theorem near_self (r : F) : Near r r := by
  rw [Near, sub_self, abs_zero, zero_mul]
  exact abs_nonneg r

instance [FloatOps F] [Exact F] : Accurate F where
  ofInt_near n := by
    rw [Exact.ofInt_eq]
    exact near_self _
  add_near x y _ := by
    rw [Exact.add_eq]
    exact near_self _
  mul_near x y _ := by
    rw [Exact.mul_eq]
    exact near_self _
  div_near x y _ _ := by
    rw [Exact.div_eq]
    exact near_self _

theorem Near.eq_zero {x : F} (h : Near x 0) : x = 0 := by
  rw [Near, sub_zero, abs_zero] at h
  have hpos : (0 : F) < ((2 ^ 24 : ℕ) : F) := Nat.cast_pos.mpr (by norm_num)
  exact abs_eq_zero.mp (le_antisymm (nonpos_of_mul_nonpos_left h hpos) (abs_nonneg x))

theorem Near.bounds {x r : F} (h : Near x r) (hr : 0 ≤ r) :
    99 * r ≤ 100 * x ∧ 100 * x ≤ 101 * r := by
  rw [Near, abs_of_nonneg hr] at h
  have hcast : (100 : F) ≤ ((2 ^ 24 : ℕ) : F) := by norm_num
  have herror : |x - r| * 100 ≤ r :=
    (mul_le_mul_of_nonneg_left hcast (abs_nonneg _)).trans h
  have hbelow := neg_abs_le (x - r)
  have habove := le_abs_self (x - r)
  constructor <;> linarith

variable [FloatOps F] [Accurate F]

theorem ofInt_zero : (ofInt 0 : F) = 0 := by
  have h := Accurate.ofInt_near (F := F) 0
  rw [Int.cast_zero] at h
  exact h.eq_zero

theorem ofInt_bounds {n : ℤ} (h : 0 ≤ n) :
    99 * (n : F) ≤ 100 * ofInt n ∧ 100 * ofInt n ≤ 101 * (n : F) :=
  (Accurate.ofInt_near n).bounds (Int.cast_nonneg h)

theorem ofInt_pos {n : ℤ} (h : 0 < n) : (0 : F) < ofInt n := by
  have hn : (0 : F) < n := Int.cast_pos.mpr h
  have hle := (ofInt_bounds (F := F) h.le).1
  linarith

theorem ofInt_ne_zero {n : ℤ} (h : n ≠ 0) : (ofInt n : F) ≠ 0 := by
  intro hzero
  have hnear := Accurate.ofInt_near (F := F) n
  rw [Near, hzero, zero_sub, abs_neg] at hnear
  have hpos : (0 : F) < |(n : F)| := abs_pos.mpr (Int.cast_ne_zero.mpr h)
  have hcast : (1 : F) < ((2 ^ 24 : ℕ) : F) := by norm_num
  exact absurd hnear (lt_mul_of_one_lt_right hpos hcast).not_ge

theorem add_of_zero : add (0 : F) 0 = 0 := by
  have h := Accurate.add_near (0 : F) 0 (.inl (add_zero 0))
  rw [add_zero] at h
  exact h.eq_zero

theorem mul_of_zero (y : F) : mul 0 y = 0 := by
  have h := Accurate.mul_near 0 y (.inl (zero_mul y))
  rw [zero_mul] at h
  exact h.eq_zero

theorem div_of_zero {y : F} (hy : y ≠ 0) : div 0 y = 0 := by
  have h := Accurate.div_near 0 y hy (.inl (zero_div y))
  rw [zero_div] at h
  exact h.eq_zero

theorem div_bounds {x y : F} (hx : 0 < x) (hy : 0 < y) (hsize : y ≤ x * ((2 ^ 126 : ℕ) : F)) :
    99 * (x / y) ≤ 100 * div x y ∧ 100 * div x y ≤ 101 * (x / y) := by
  have hnonneg : 0 ≤ x / y := (div_pos hx hy).le
  refine (Accurate.div_near x y hy.ne' (.inr ?_)).bounds hnonneg
  rw [abs_of_nonneg hnonneg, div_mul_eq_mul_div, one_le_div hy]
  exact hsize

theorem ratio_bounds {n d : ℤ} (hn : 0 < n) (hd : 0 < d) (hsize : d ≤ n * 2 ^ 64) :
    97 * (n / d : F) ≤ 100 * ratio n d ∧ 100 * ratio n d ≤ 104 * (n / d : F) := by
  obtain ⟨hnlow, hnhigh⟩ := ofInt_bounds (F := F) hn.le
  obtain ⟨hdlow, hdhigh⟩ := ofInt_bounds (F := F) hd.le
  have hx : (0 : F) < ofInt n := ofInt_pos hn
  have hy : (0 : F) < ofInt d := ofInt_pos hd
  have hdF : (0 : F) < d := Int.cast_pos.mpr hd
  have hnormal : ofInt d ≤ ofInt n * ((2 ^ 126 : ℕ) : F) := by
    have hsizeF : (d : F) ≤ n * 2 ^ 64 := by exact_mod_cast hsize
    norm_num at hsizeF ⊢
    linarith
  obtain ⟨hlow, hhigh⟩ := div_bounds hx hy hnormal
  rw [← mul_div_assoc, div_le_iff₀ hy] at hlow
  rw [← mul_div_assoc, le_div_iff₀ hy] at hhigh
  rw [ratio]
  set q : F := div (ofInt n) (ofInt d) with hq
  have hqpos : 0 < q := by
    by_contra hneg
    have hproduct := mul_nonpos_of_nonpos_of_nonneg (not_lt.mp hneg) hy.le
    linarith
  have hqlow : 99 * (d : F) * q ≤ 100 * ofInt d * q := mul_le_mul_of_nonneg_right hdlow hqpos.le
  have hqhigh : 100 * ofInt d * q ≤ 101 * (d : F) * q := mul_le_mul_of_nonneg_right hdhigh hqpos.le
  rw [← mul_div_assoc, ← mul_div_assoc, div_le_iff₀ hdF, le_div_iff₀ hdF]
  constructor <;> linarith

end Accurate

end FloatOps

end ElasticFrame.Lib
