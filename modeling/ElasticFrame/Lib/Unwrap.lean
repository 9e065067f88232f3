import Mathlib

/-!
Unwrapping of a counter that travels modulo `m`: the receiver of two
successive residues recovers the true increment as long as it is smaller in
size than half the modulus. The increment is the balanced remainder
(`Int.bmod`) of the difference of the residues, which is what reading an
unsigned machine difference as a signed one computes.
-/

namespace ElasticFrame.Lib.Unwrap

theorem bmod_congr {m : ℕ} {x y : ℤ} (h : x ≡ y [ZMOD m]) : Int.bmod x m = Int.bmod y m := by
  simp only [Int.bmod_def, h.eq]

/-- A difference known modulo `m` and lying in the balanced range is its own
balanced remainder. -/
theorem bmod_eq_of_modEq {m : ℕ} {x d : ℤ} (hx : x ≡ d [ZMOD m])
    (hlo : -((m : ℤ) / 2) ≤ d) (hhi : d < ((m : ℤ) + 1) / 2) : Int.bmod x m = d := by
  rw [bmod_congr hx]
  exact Int.bmod_eq_of_le hlo hhi

theorem bmod_modEq (x : ℤ) (m : ℕ) : Int.bmod x m ≡ x [ZMOD m] := by
  rw [Int.ModEq, Int.bmod_emod]

/-- One step of unwrapping is exact: an accumulator that runs `c` ahead of
the true number `n` runs `c` ahead of the next true number too. -/
theorem add_bmod_eq {m : ℕ} {old new n n' : ℤ} (c : ℤ) (hold : old ≡ n [ZMOD m])
    (hnew : new ≡ n' [ZMOD m]) (hlo : -((m : ℤ) / 2) ≤ n' - n)
    (hhi : n' - n < ((m : ℤ) + 1) / 2) : n + c + Int.bmod (new - old) m = n' + c := by
  rw [bmod_eq_of_modEq (hnew.sub hold) hlo hhi]
  ring

end ElasticFrame.Lib.Unwrap
