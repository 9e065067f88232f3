import ElasticFrame.Receiver.Representation

/-!
Runs of `recalculateSuperFrameNo`. A superframe has a true number, which the
wire shows modulo `2^16`. As long as two numbers in a row lie within half that
range of each other, forwards or backwards, the unwrapped number runs a
constant ahead of the true one, however often the wire number wraps around.

The unwrapped number is an `int64_t`. The sum that leaves it is the only thing
that can go wrong.
-/

namespace ElasticFrame

open Lib

/-- Two true numbers in a row that the wire can tell apart. -/
def Near (n n' : ℤ) : Prop := -2 ^ 15 ≤ n' - n ∧ n' - n < 2 ^ 15

instance (n n' : ℤ) : Decidable (Near n n') := inferInstanceAs (Decidable (_ ∧ _))

theorem UInt16.toNat_ofInt (x : ℤ) : ((UInt16.ofInt x).toNat : ℤ) = x % 2 ^ 16 := by
  rw [UInt16.ofInt, UInt16.toNat_ofNat']
  omega

theorem UInt16.modEq_ofInt (x : ℤ) : ((UInt16.ofInt x).toNat : ℤ) ≡ x [ZMOD 2 ^ 16] := by
  rw [UInt16.toNat_ofInt]
  exact Int.mod_modEq x _

namespace FrameNoTracking

/-- `recalculateSuperFrameNo`, where the sum overflows without a result. -/
def recalculateInt64 (t : FrameNoTracking) (aFrameNo : UInt16) : Option FrameNoTracking :=
  if FitsInt64 (t.recalculateSuperFrameNo aFrameNo).mFrameNoRecalc then
    some (t.recalculateSuperFrameNo aFrameNo)
  else none

/-- What `recalculateSuperFrameNo` returns for these numbers, one after
another. -/
def recalculated : FrameNoTracking → List UInt16 → Option (List ℤ)
  | _, [] => some []
  | t, n :: ns =>
      (t.recalculateInt64 n).bind fun t' => (t'.recalculated ns).map (t'.mFrameNoRecalc :: ·)

/-- The unwrapped number runs `c` ahead of the label of the last unwrapped
number, if there has been one. -/
def Tracks (t : FrameNoTracking) (c : ℤ) : Option ℤ → Prop
  | none => t.mFirstFrame = true
  | some x => t.mFirstFrame = false ∧ t.mFrameNoRecalc = x + c ∧
      (t.mOldFrameNo.toNat : ℤ) ≡ x [ZMOD 2 ^ 16]

variable {t : FrameNoTracking} {c x l : ℤ} {n : UInt16}

theorem Tracks.first (h : t.mFirstFrame = true) (hn : (n.toNat : ℤ) ≡ l [ZMOD 2 ^ 16]) :
    (t.recalculateSuperFrameNo n).Tracks (n.toNat - l) (some l) := by
  have hrecalc : t.recalculateSuperFrameNo n =
      { mOldFrameNo := n, mFrameNoRecalc := n.toNat, mFirstFrame := false } := by
    rw [recalculateSuperFrameNo, h]
    rfl
  rw [hrecalc]
  exact ⟨rfl, by simp, hn⟩

theorem Tracks.next (h : t.Tracks c (some x)) (hn : (n.toNat : ℤ) ≡ l [ZMOD 2 ^ 16])
    (hnear : Near x l) : (t.recalculateSuperFrameNo n).Tracks c (some l) := by
  obtain ⟨hfirst, hrec, hold⟩ := h
  have hnext : x + c + (n - t.mOldFrameNo).toInt16.toInt = l + c := by
    rw [UInt16.toInt_sub_toInt16]
    exact Unwrap.add_bmod_eq c hold hn hnear.1 hnear.2
  have hrecalc : t.recalculateSuperFrameNo n =
      { mOldFrameNo := n, mFrameNoRecalc := l + c, mFirstFrame := false } := by
    rw [recalculateSuperFrameNo, hfirst]
    simp only [Bool.false_eq_true, if_false, hrec, hnext]
  rw [hrecalc]
  exact ⟨rfl, rfl, hn⟩

theorem Tracks.recalculate {last : Option ℤ} (h : t.Tracks c last)
    (hn : (n.toNat : ℤ) ≡ l [ZMOD 2 ^ 16]) (hnear : ∀ x, last = some x → |l - x| < 2 ^ 15) :
    ∃ c', (t.recalculateSuperFrameNo n).Tracks c' (some l) ∧
      (t.recalculateSuperFrameNo n).mFrameNoRecalc = l + c' ∧
      ∀ x, last = some x → c' = c := by
  cases last with
  | none =>
      have hnext := Tracks.first h hn
      exact ⟨_, hnext, hnext.2.1, fun x hx => by cases hx⟩
  | some x =>
      obtain ⟨hlo, hhi⟩ := abs_lt.mp (hnear x rfl)
      have hnext := h.next hn ⟨hlo.le, hhi⟩
      exact ⟨c, hnext, hnext.2.1, fun _ _ => rfl⟩

/-! ### Whole runs -/

/-- The run goes on until a sum overflows, and the unwrapped numbers run `c`
ahead of the true ones. -/
theorem Tracks.recalculated {ns : List ℤ} (h : t.Tracks c (some x))
    (hnear : (x :: ns).IsChain Near) :
    t.recalculated (ns.map UInt16.ofInt) =
      if ∀ n ∈ ns, FitsInt64 (n + c) then some (ns.map (· + c)) else none := by
  induction ns generalizing t x with
  | nil => simp [FrameNoTracking.recalculated]
  | cons n ns ih =>
      obtain ⟨hxn, hns⟩ := List.isChain_cons_cons.mp hnear
      have hnext := h.next (UInt16.modEq_ofInt n) hxn
      rw [List.map_cons, FrameNoTracking.recalculated, recalculateInt64, hnext.2.1]
      by_cases hfits : FitsInt64 (n + c)
      · rw [if_pos hfits, Option.bind_some, ih hnext hns, hnext.2.1]
        simp only [List.forall_mem_cons, hfits, true_and, List.map_cons]
        split_ifs <;> rfl
      · rw [if_neg hfits, Option.bind_none]
        simp only [List.forall_mem_cons, hfits, false_and, if_false]

end FrameNoTracking

/-- The order that a fresh receiver gives the superframe with this true number,
if the first one has the number `n₀`. -/
def orderAfter (n₀ n : ℤ) : ℤ := n₀ % 2 ^ 16 + (n - n₀)

theorem recalculated_fresh {n₀ : ℤ} {ns : List ℤ} (hnear : (n₀ :: ns).IsChain Near) :
    FrameNoTracking.recalculated {} ((n₀ :: ns).map UInt16.ofInt) =
      if ∀ n ∈ ns, FitsInt64 (orderAfter n₀ n) then some ((n₀ :: ns).map (orderAfter n₀))
      else none := by
  have hfirst := FrameNoTracking.Tracks.first (t := {}) rfl (UInt16.modEq_ofInt n₀)
  have hshift : ∀ n, n + (((UInt16.ofInt n₀).toNat : ℤ) - n₀) = orderAfter n₀ n := by
    intro n
    rw [UInt16.toNat_ofInt, orderAfter]
    ring
  have hrest := hfirst.recalculated hnear
  simp only [hshift] at hrest
  have hfits : FitsInt64 (n₀ + (((UInt16.ofInt n₀).toNat : ℤ) - n₀)) := by
    have hlt := (UInt16.ofInt n₀).toNat_lt
    rw [FitsInt64]
    omega
  rw [List.map_cons, FrameNoTracking.recalculated, FrameNoTracking.recalculateInt64, hfirst.2.1,
    if_pos hfits, Option.bind_some, hrest, hfirst.2.1, hshift]
  split_ifs <;> rfl

theorem orderAfter_modEq (n₀ n : ℤ) : orderAfter n₀ n ≡ n [ZMOD 2 ^ 16] := by
  rw [orderAfter, Int.ModEq]
  omega

/-- A fresh receiver unwraps this sequence exactly: the numbers it returns
differ as the true ones do, and each is what the wire shows modulo `2^16`. -/
def UnwrapsExactly (B : BufferSize) (ns : List ℤ) : Prop :=
  ∃ os, (Receiver.fresh B).frameNo.recalculated (ns.map UInt16.ofInt) = some os ∧
    List.Forall₂ (fun o n => o ≡ n [ZMOD 2 ^ 16]) os ns ∧
      ∀ p ∈ os.zip ns, ∀ p' ∈ os.zip ns, p.1 - p'.1 = p.2 - p'.2 ∧ (p.1 < p'.1 ↔ p.2 < p'.2)

/-- A sequence is unwrapped exactly just when its orders stay within what an
`int64_t` holds, in whichever direction and however often it wraps around. -/
theorem unwrapsExactly_iff (B : BufferSize) (n₀ : ℤ) (ns : List ℤ)
    (hnear : (n₀ :: ns).IsChain Near) :
    UnwrapsExactly B (n₀ :: ns) ↔ ∀ n ∈ ns, FitsInt64 (orderAfter n₀ n) := by
  have hrun := recalculated_fresh hnear
  constructor
  · rintro ⟨os, hos, -⟩
    by_contra hoverflow
    rw [if_neg hoverflow] at hrun
    exact absurd (hrun.symm.trans hos) (by simp)
  · intro hfits
    rw [if_pos hfits] at hrun
    refine ⟨_, hrun, ?_, ?_⟩
    · rw [List.forall₂_map_left_iff, List.forall₂_same]
      exact fun n _ => orderAfter_modEq n₀ n
    · have hpair : ∀ p ∈ ((n₀ :: ns).map (orderAfter n₀)).zip (n₀ :: ns),
          p.1 = orderAfter n₀ p.2 := by
        intro p hp
        rw [← List.map_prod_right_eq_zip, List.mem_map] at hp
        obtain ⟨n, -, rfl⟩ := hp
        rfl
      intro p hp p' hp'
      rw [hpair p hp, hpair p' hp', orderAfter, orderAfter]
      omega

theorem unwrapsExactly_backAndForth : UnwrapsExactly .default [3, -20000, 12000, 40000, 72767] :=
  (unwrapsExactly_iff .default 3 [-20000, 12000, 40000, 72767] (by decide)).mpr (by decide)

/-- The true numbers grow by the largest step the wire can tell, `k` times. -/
def climbing (k : ℕ) : List ℤ := (List.range (k + 1)).map fun i : ℕ => 32767 * (i : ℤ)

theorem near_climbing (k : ℕ) : (climbing k).IsChain Near := by
  rw [climbing, List.isChain_map]
  refine (List.isChain_range _ _).mpr fun i _ => ?_
  rw [Near]
  push_cast
  omega

theorem climbing_eq (k : ℕ) :
    climbing k = 0 :: (List.range k).map fun i : ℕ => 32767 * ((i + 1 : ℕ) : ℤ) := by
  rw [climbing, List.range_succ_eq_map, List.map_cons, List.map_map]
  rfl

/-- After so many such steps the order does not fit an `int64_t`. -/
theorem not_unwrapsExactly_climbing :
    (climbing (2 ^ 49)).IsChain Near ∧ ¬ UnwrapsExactly .default (climbing (2 ^ 49)) := by
  refine ⟨near_climbing _, ?_⟩
  rintro ⟨os, hos, -⟩
  have hnear := near_climbing (2 ^ 49)
  rw [climbing_eq] at hos hnear
  have hlast : 32767 * ((2 ^ 49 - 1 + 1 : ℕ) : ℤ) ∈
      (List.range (2 ^ 49)).map fun i : ℕ => 32767 * ((i + 1 : ℕ) : ℤ) :=
    List.mem_map.mpr ⟨2 ^ 49 - 1, List.mem_range.mpr (by norm_num), rfl⟩
  have hrun := recalculated_fresh hnear
  rw [if_neg fun hfits => absurd (hfits _ hlast) (by decide)] at hrun
  exact absurd (hrun.symm.trans hos) (by simp)

end ElasticFrame
