import Mathlib

/-!
An exponential moving average over the integers. A sample moves the average by
the `d`th part of the distance between them, rounded towards zero. The average
stays within any bounds that the samples keep to, and what it lies outside of
them shrinks by the factor `(d - 1) / d` with every sample, down to the `d - 1`
that the rounding leaves.
-/

namespace ElasticFrame.Lib.MovingAverage

def move (d x s : ℤ) : ℤ := x + (s - x).tdiv d

def average (d x : ℤ) (samples : List ℤ) : ℤ := samples.foldl (move d) x

variable {d x s lo hi : ℤ} {samples : List ℤ}

/-- Upwards, the average goes at most as far as the sample, and at least the
`d`th part of the way but for the rounding. -/
theorem move_of_le (hd : 0 < d) (h : x ≤ s) :
    x ≤ move d x s ∧ move d x s ≤ s ∧ s - x - (d - 1) ≤ d * (move d x s - x) := by
  have hdist : 0 ≤ s - x := sub_nonneg.mpr h
  have hnonneg : 0 ≤ (s - x) / d := Int.ediv_nonneg hdist hd.le
  have hle : (s - x) / d ≤ s - x := Int.ediv_le_self d hdist
  have hsplit := Int.mul_ediv_add_emod (s - x) d
  have hrest := Int.emod_lt_of_pos (s - x) hd
  rw [move, Int.tdiv_eq_ediv_of_nonneg hdist]
  refine ⟨by omega, by omega, ?_⟩
  rw [add_sub_cancel_left]
  omega

theorem move_neg (d x s : ℤ) : move d (-x) (-s) = -move d x s := by
  have hdist : -s - -x = -(s - x) := by ring
  rw [move, hdist, Int.neg_tdiv, move]
  ring

theorem average_neg (d x : ℤ) (samples : List ℤ) :
    average d (-x) (samples.map Neg.neg) = -average d x samples := by
  rw [average, average]
  induction samples generalizing x with
  | nil => rfl
  | cons s samples ih => rw [List.map_cons, List.foldl_cons, List.foldl_cons, move_neg, ih]

/-! ### Bounds -/

theorem move_le (hd : 0 < d) (hx : x ≤ hi) (hs : s ≤ hi) : move d x s ≤ hi := by
  rcases le_total x s with h | h
  · exact (move_of_le hd h).2.1.trans hs
  · have hmove := (move_of_le hd (neg_le_neg h)).1
    rw [move_neg, neg_le_neg_iff] at hmove
    exact hmove.trans hx

theorem le_move (hd : 0 < d) (hx : lo ≤ x) (hs : lo ≤ s) : lo ≤ move d x s := by
  have hmove := move_le hd (neg_le_neg hx) (neg_le_neg hs)
  rwa [move_neg, neg_le_neg_iff] at hmove

theorem average_le (hd : 0 < d) (hx : x ≤ hi) (h : ∀ s ∈ samples, s ≤ hi) :
    average d x samples ≤ hi := by
  induction samples generalizing x with
  | nil => exact hx
  | cons s samples ih =>
      exact ih (move_le hd hx (h s List.mem_cons_self))
        fun s' hs' => h s' (List.mem_cons_of_mem _ hs')

theorem le_average (hd : 0 < d) (hx : lo ≤ x) (h : ∀ s ∈ samples, lo ≤ s) :
    lo ≤ average d x samples := by
  induction samples generalizing x with
  | nil => exact hx
  | cons s samples ih =>
      exact ih (le_move hd hx (h s List.mem_cons_self))
        fun s' hs' => h s' (List.mem_cons_of_mem _ hs')

/-! ### Convergence -/

/-- How far the average is below the bound, but for the rounding. -/
def shortfall (d lo x : ℤ) : ℤ := max (lo - (d - 1) - x) 0

theorem shortfall_nonneg (d lo x : ℤ) : 0 ≤ shortfall d lo x := le_max_right _ _

theorem shortfall_eq_zero (h : lo - (d - 1) ≤ x) : shortfall d lo x = 0 :=
  max_eq_right (by omega)

theorem le_of_shortfall (h : shortfall d lo x = 0) : lo - (d - 1) ≤ x := by
  have hle : lo - (d - 1) - x ≤ shortfall d lo x := le_max_left _ _
  omega

/-- One sample above the bound takes the `d`th part of the shortfall away. -/
theorem shortfall_move (hd : 0 < d) (hs : lo ≤ s) :
    d * shortfall d lo (move d x s) ≤ (d - 1) * shortfall d lo x := by
  by_cases hbelow : lo - (d - 1) ≤ x
  · -- no shortfall comes about
    have hkept : lo - (d - 1) ≤ move d x s := le_move hd hbelow (by omega)
    rw [shortfall_eq_zero hkept, mul_zero]
    exact mul_nonneg (by omega) (shortfall_nonneg d lo x)
  · have hle : x ≤ s := by omega
    obtain ⟨-, -, hfar⟩ := move_of_le hd hle
    have hold : shortfall d lo x = lo - (d - 1) - x := max_eq_left (by omega)
    rw [hold, shortfall, mul_max_of_nonneg _ _ hd.le, mul_zero]
    refine max_le ?_ (mul_nonneg (by omega) (by omega))
    have hexpand : d * (lo - (d - 1) - move d x s) =
        d * (lo - (d - 1) - x) - d * (move d x s - x) := by ring
    have hsplit : (d - 1) * (lo - (d - 1) - x) = d * (lo - (d - 1) - x) - (lo - (d - 1) - x) := by
      ring
    rw [hexpand, hsplit]
    omega

theorem shortfall_average (hd : 0 < d) (h : ∀ s ∈ samples, lo ≤ s) :
    d ^ samples.length * shortfall d lo (average d x samples) ≤
      (d - 1) ^ samples.length * shortfall d lo x := by
  induction samples generalizing x with
  | nil =>
      rw [List.length_nil, pow_zero, pow_zero]
      exact le_refl (1 * shortfall d lo x)
  | cons s samples ih =>
      have hstep := shortfall_move (x := x) hd (h s List.mem_cons_self)
      have hrest := ih (x := move d x s) fun s' hs' => h s' (List.mem_cons_of_mem _ hs')
      have hpow : 0 ≤ (d - 1) ^ samples.length := pow_nonneg (by omega) _
      calc d ^ (samples.length + 1) * shortfall d lo (average d (move d x s) samples)
          = d * (d ^ samples.length * shortfall d lo (average d (move d x s) samples)) := by ring
        _ ≤ d * ((d - 1) ^ samples.length * shortfall d lo (move d x s)) :=
            mul_le_mul_of_nonneg_left hrest hd.le
        _ = (d - 1) ^ samples.length * (d * shortfall d lo (move d x s)) := by ring
        _ ≤ (d - 1) ^ samples.length * ((d - 1) * shortfall d lo x) :=
            mul_le_mul_of_nonneg_left hstep hpow
        _ = (d - 1) ^ (samples.length + 1) * shortfall d lo x := by ring

theorem pow_mul_lt {n m : ℕ} (hd : 0 < d) (hx : 0 ≤ x) (h : (d - 1) ^ n * x < d ^ n)
    (hle : n ≤ m) : (d - 1) ^ m * x < d ^ m := by
  obtain ⟨k, rfl⟩ := Nat.exists_eq_add_of_le hle
  have hpow : (d - 1) ^ k ≤ d ^ k := pow_le_pow_left₀ (by omega) (by omega) k
  have hnonneg : 0 ≤ (d - 1) ^ n * x := mul_nonneg (pow_nonneg (by omega) n) hx
  calc (d - 1) ^ (n + k) * x = (d - 1) ^ k * ((d - 1) ^ n * x) := by ring
    _ ≤ d ^ k * ((d - 1) ^ n * x) := mul_le_mul_of_nonneg_right hpow hnonneg
    _ < d ^ k * d ^ n := mul_lt_mul_of_pos_left h (pow_pos hd k)
    _ = d ^ (n + k) := by ring

theorem le_average_of_pow (hd : 0 < d) (h : ∀ s ∈ samples, lo ≤ s)
    (hlong : (d - 1) ^ samples.length * shortfall d lo x < d ^ samples.length) :
    lo - (d - 1) ≤ average d x samples := by
  apply le_of_shortfall
  have hpow : 0 < d ^ samples.length := pow_pos hd _
  have hlt := (shortfall_average (x := x) hd h).trans_lt hlong
  have hnonneg := shortfall_nonneg d lo (average d x samples)
  by_contra hne
  have hone : 1 ≤ shortfall d lo (average d x samples) := by omega
  have hge : d ^ samples.length * 1 ≤ d ^ samples.length * shortfall d lo (average d x samples) :=
    mul_le_mul_of_nonneg_left hone hpow.le
  omega

theorem average_le_of_pow (hd : 0 < d) (h : ∀ s ∈ samples, s ≤ hi)
    (hlong : (d - 1) ^ samples.length * max (x - hi - (d - 1)) 0 < d ^ samples.length) :
    average d x samples ≤ hi + (d - 1) := by
  have hmap : ∀ s ∈ samples.map Neg.neg, -hi ≤ s := by
    intro s hs
    obtain ⟨s', hs', rfl⟩ := List.mem_map.mp hs
    exact neg_le_neg (h s' hs')
  have hshort : shortfall d (-hi) (-x) = max (x - hi - (d - 1)) 0 := by
    rw [shortfall]
    congr 1
    ring
  have hle := le_average_of_pow (x := -x) hd hmap (by rwa [List.length_map, hshort])
  rw [average_neg] at hle
  omega

end ElasticFrame.Lib.MovingAverage
