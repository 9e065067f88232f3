import ElasticFrame.Repair.Timing
import ElasticFrame.Receiver.History
import ElasticFrame.Lib.MovingAverage

/-!
The adaptive NACK delay. It is four times the jitter estimate, which starts at
10 ms and is the moving average of the distances of the gaps between arrivals
from the gap that is expected, itself the moving average of the gaps. When the
gaps stay between `lo` and `hi`, the estimate comes down to `hi - lo` but for
what the divisions round away.
-/

namespace ElasticFrame

open Lib

namespace JitterTracking

/-- The gaps between arrivals, the first one from `last` on. -/
def gaps : ℤ → List ℤ → List ℤ
  | _, [] => []
  | last, a :: as => (a - last) :: gaps a as

theorem length_gaps (last : ℤ) (as : List ℤ) : (gaps last as).length = as.length := by
  induction as generalizing last with
  | nil => rfl
  | cons a as ih => exact congrArg (· + 1) (ih a)

theorem forall_gaps {P : ℤ → Prop} {last : ℤ} {as : List ℤ}
    (h : (last :: as).IsChain fun a b => P (b - a)) : ∀ g ∈ gaps last as, P g := by
  induction as generalizing last with
  | nil => exact fun g hg => absurd hg List.not_mem_nil
  | cons a as ih =>
      obtain ⟨hfirst, hrest⟩ := List.isChain_cons_cons.mp h
      exact List.forall_mem_cons.mpr ⟨hfirst, ih hrest⟩

/-- What the gaps are off the expected one, which follows them. -/
def deviations : ℤ → List ℤ → List ℤ
  | _, [] => []
  | expected, g :: gs => |g - expected| :: deviations (MovingAverage.move 16 expected g) gs

theorem updateJitter_of_pos {j : JitterTracking} (h : 0 < j.mLastArrivalUs) (a : ℤ) :
    j.updateJitter a =
      { mJitterUs := MovingAverage.move 16 j.mJitterUs
          |a - j.mLastArrivalUs - j.mExpectedIntervalUs|
        mExpectedIntervalUs := MovingAverage.move 16 j.mExpectedIntervalUs (a - j.mLastArrivalUs)
        mLastArrivalUs := a } := by
  have habs : ∀ x : ℤ, (if x < 0 then -x else x) = |x| := by
    intro x
    split_ifs with hneg
    · exact (abs_of_neg hneg).symm
    · exact (abs_of_nonneg (not_lt.mp hneg)).symm
  rw [updateJitter, if_pos h]
  dsimp only
  rw [habs]
  rfl

theorem foldl_updateJitter {j : JitterTracking} (h : 0 < j.mLastArrivalUs) {as : List ℤ}
    (has : ∀ a ∈ as, 0 < a) :
    (as.foldl updateJitter j).mJitterUs = MovingAverage.average 16 j.mJitterUs
        (deviations j.mExpectedIntervalUs (gaps j.mLastArrivalUs as)) ∧
      (as.foldl updateJitter j).mExpectedIntervalUs =
        MovingAverage.average 16 j.mExpectedIntervalUs (gaps j.mLastArrivalUs as) := by
  induction as generalizing j with
  | nil => exact ⟨rfl, rfl⟩
  | cons a as ih =>
      have hnext := updateJitter_of_pos h a
      have hlast : 0 < (j.updateJitter a).mLastArrivalUs := by
        rw [hnext]
        exact has a List.mem_cons_self
      obtain ⟨hjitter, hexpected⟩ := ih hlast fun b hb => has b (List.mem_cons_of_mem _ hb)
      rw [List.foldl_cons, hjitter, hexpected, hnext]
      exact ⟨rfl, rfl⟩

theorem length_deviations (expected : ℤ) (gs : List ℤ) :
    (deviations expected gs).length = gs.length := by
  induction gs generalizing expected with
  | nil => rfl
  | cons g gs ih => exact congrArg (· + 1) (ih _)

theorem deviations_append (expected : ℤ) (gs hs : List ℤ) :
    deviations expected (gs ++ hs) =
      deviations expected gs ++ deviations (MovingAverage.average 16 expected gs) hs := by
  induction gs generalizing expected with
  | nil => rfl
  | cons g gs ih => exact congrArg (|g - expected| :: ·) (ih _)

/-- Gaps and the expected gap within the same bounds are at most their distance
apart. -/
theorem forall_deviations {lo hi expected : ℤ} {gs : List ℤ} (hlo : lo ≤ expected)
    (hhi : expected ≤ hi) (hgs : ∀ g ∈ gs, lo ≤ g ∧ g ≤ hi) :
    ∀ d ∈ deviations expected gs, 0 ≤ d ∧ d ≤ hi - lo := by
  induction gs generalizing expected with
  | nil => exact fun d hd => absurd hd List.not_mem_nil
  | cons g gs ih =>
      obtain ⟨hglo, hghi⟩ := hgs g List.mem_cons_self
      intro d hd
      rcases List.mem_cons.mp hd with rfl | hd
      · refine ⟨abs_nonneg _, abs_le.mpr ⟨?_, ?_⟩⟩
        · omega
        · omega
      · exact ih (MovingAverage.le_move (by norm_num) hlo hglo)
          (MovingAverage.move_le (by norm_num) hhi hghi)
          (fun g' hg' => hgs g' (List.mem_cons_of_mem _ hg')) d hd

/-- The gaps are enough for an average to come all the way from either of the
bounds. -/
def Settle (J hi : ℤ) (n : ℕ) : Prop := 15 ^ n * max J hi < 16 ^ n

instance (J hi : ℤ) (n : ℕ) : Decidable (Settle J hi n) := inferInstanceAs (Decidable (_ < _))

theorem jitter_settles {lo hi J : ℤ} {n : ℕ} (hlo : 0 ≤ lo) (hJ : 0 ≤ J) (hn : Settle J hi n)
    {gs : List ℤ} (hlohi : lo ≤ hi) (hgs : ∀ g ∈ gs, lo ≤ g ∧ g ≤ hi) (hlong : 2 * n ≤ gs.length) :
    0 ≤ MovingAverage.average 16 J (deviations 0 gs) ∧
      MovingAverage.average 16 J (deviations 0 gs) ≤ hi - lo + 30 := by
  have hsixteen : (0 : ℤ) < 16 := by norm_num
  obtain ⟨early, late, rfl, hlate⟩ : ∃ early late, gs = early ++ late ∧ late.length = n := by
    refine ⟨gs.take (gs.length - n), gs.drop (gs.length - n), (List.take_append_drop _ _).symm, ?_⟩
    rw [List.length_drop]
    omega
  obtain ⟨hearly, hrest⟩ := List.forall_mem_append.mp hgs
  rw [List.length_append] at hlong
  have hmax : 0 ≤ max J hi := le_max_of_le_left hJ
  -- by the end of the first part the expected gap is nearly within the bounds
  have hexpected : lo - 15 ≤ MovingAverage.average 16 0 early := by
    apply MovingAverage.le_average_of_pow hsixteen fun g hg => (hearly g hg).1
    refine lt_of_le_of_lt (mul_le_mul_of_nonneg_left ?_ (by positivity))
      (MovingAverage.pow_mul_lt hsixteen hmax hn (by omega))
    exact max_le (by omega) hmax
  have hbelow : MovingAverage.average 16 0 early ≤ hi :=
    MovingAverage.average_le hsixteen (by omega) fun g hg => (hearly g hg).2
  have hfirst : ∀ d ∈ deviations 0 early, 0 ≤ d ∧ d ≤ hi - 0 :=
    forall_deviations le_rfl (by omega) (fun g hg => ⟨hlo.trans (hearly g hg).1, (hearly g hg).2⟩)
  have hsecond := forall_deviations hexpected hbelow
    (fun g hg => ⟨by linarith only [(hrest g hg).1], (hrest g hg).2⟩)
  have hnonneg : 0 ≤ MovingAverage.average 16 J (deviations 0 early) :=
    MovingAverage.le_average hsixteen hJ fun d hd => (hfirst d hd).1
  have hmid : MovingAverage.average 16 J (deviations 0 early) ≤ max J hi := by
    apply MovingAverage.average_le hsixteen (le_max_left _ _)
    intro d hd
    exact (hfirst d hd).2.trans ((sub_zero hi).le.trans (le_max_right _ _))
  -- and by the end of the second so is the jitter
  have hsplit : MovingAverage.average 16 J (deviations 0 (early ++ late)) =
      MovingAverage.average 16 (MovingAverage.average 16 J (deviations 0 early))
        (deviations (MovingAverage.average 16 0 early) late) := by
    rw [deviations_append]
    exact List.foldl_append ..
  rw [hsplit]
  refine ⟨MovingAverage.le_average hsixteen hnonneg fun d hd => (hsecond d hd).1, ?_⟩
  have hend : MovingAverage.average 16 (MovingAverage.average 16 J (deviations 0 early))
      (deviations (MovingAverage.average 16 0 early) late) ≤ hi - (lo - 15) + (16 - 1) := by
    apply MovingAverage.average_le_of_pow hsixteen fun d hd => (hsecond d hd).2
    rw [length_deviations, hlate]
    refine lt_of_le_of_lt (mul_le_mul_of_nonneg_left ?_ (by positivity)) hn
    exact max_le (by omega) hmax
  omega

end JitterTracking

theorem int64ShiftLeft_le {x : ℤ} (hx : 0 ≤ x) (n : ℕ) : int64ShiftLeft x n ≤ x * 2 ^ n := by
  have hnonneg : 0 ≤ x * 2 ^ n := mul_nonneg hx (by positivity)
  rw [int64ShiftLeft, Int.bmod_def]
  generalize x * 2 ^ n = y at hnonneg
  split_ifs
  · omega
  · omega

/-! ### Arrivals at a receiver -/

/-- The time of a packet that comes as far as `updateJitter`. -/
def Act.arrival? : Act → Option ℤ
  | .handle now _ _ f => if f.packet.length < f.headerSize then none else some now
  | .bundle | .pass _ => none

namespace Receiver

variable {B : BufferSize}

theorem jitter_act (cfg : ReceiverConfig) (r : Receiver B) (now : ℤ) (memalign : Bool)
    (src : UInt8) (f : Fragment) {v : Verdict} (hv : v ≠ .short) :
    (r.act cfg now memalign src f v).1.jitter = r.jitter.updateJitter now := by
  have hcache : ∀ r : Receiver B, (r.cacheStream f).jitter = r.jitter := by
    intro r
    cases f <;> rfl
  cases v with
  | short => exact absurd rfl hv
  | reject res => rfl
  | duplicate => rfl
  | stale res => rfl
  | fill => exact hcache _
  | «open» =>
      simp only [act]
      rw [openBucket]
      split_ifs <;> exact hcache _

theorem jitter_step (cfg : ReceiverConfig) (r : Receiver B) (a : Act) :
    ((fine B cfg).step r a).1.jitter =
      a.arrival?.toList.foldl JitterTracking.updateJitter r.jitter := by
  cases a with
  | handle now memalign src f =>
      rw [fine_handle, Act.arrival?, handle_eq, Fragment.verdict]
      by_cases hshort : f.packet.length < f.headerSize
      · rw [if_pos hshort, if_pos hshort]
        rfl
      · rw [if_neg hshort, if_neg hshort]
        apply jitter_act
        split
        · exact fun h => by cases h
        · split_ifs
          · exact fun h => by cases h
          · exact fun h => by cases h
          · exact fun h => by cases h
          · split <;> exact fun h => by cases h
  | bundle => rfl
  | pass clk => exact jitter_processTimeouts cfg clk r

theorem jitter_run (cfg : ReceiverConfig) (r : Receiver B) (as : List Act) :
    ((fine B cfg).run r as).1.jitter =
      (as.filterMap Act.arrival?).foldl JitterTracking.updateJitter r.jitter := by
  induction as generalizing r with
  | nil => rfl
  | cons a as ih =>
      rw [Machine.run_cons, ih, jitter_step, List.filterMap_cons]
      cases a.arrival? <;> rfl

def arrivals (B : BufferSize) (cfg : ReceiverConfig) (cs : List Call) : List ℤ :=
  ((machine B cfg).flatten (acts cfg) (Receiver.fresh B) cs).filterMap Act.arrival?

/-- If the gaps between arrivals stay between `lo` and `hi`, the jitter estimate
is at most `hi - lo + 30` after enough of them, and the adaptive delay at most
four times as much, or 10 ms, doubled for every retry. -/
theorem nackDelay_settles (B : BufferSize) (cfg : ReceiverConfig) (cs : List Call) (lo hi : ℤ)
    (n : ℕ) (hlo : 0 ≤ lo) (hlohi : lo ≤ hi) (hpos : ∀ a ∈ arrivals B cfg cs, 0 < a)
    (hgaps : (arrivals B cfg cs).IsChain fun a b => lo ≤ b - a ∧ b - a ≤ hi)
    (hn : JitterTracking.Settle 10000 hi n) (hlong : 2 * n < (arrivals B cfg cs).length) :
    let r := ((machine B cfg).run (Receiver.fresh B) cs).1
    (0 ≤ r.jitter.mJitterUs ∧ r.jitter.mJitterUs ≤ hi - lo + 30) ∧
      (cfg.mNackIntervalMs = 0 → ∀ b now, r.calculateNackDelayUs cfg b now ≤
        max 10000 ((hi - lo + 30) * 4) * 2 ^ b.mNackCount.toNat) := by
  intro r
  have hjitter : r.jitter = (arrivals B cfg cs).foldl JitterTracking.updateJitter {} := by
    have hrun := jitter_run cfg (Receiver.fresh B)
      ((machine B cfg).flatten (acts cfg) (Receiver.fresh B) cs)
    rw [← run_acts] at hrun
    exact hrun
  have hsettled : 0 ≤ r.jitter.mJitterUs ∧ r.jitter.mJitterUs ≤ hi - lo + 30 := by
    rw [hjitter]
    generalize arrivals B cfg cs = as at hpos hgaps hlong
    cases as with
    | nil => exact absurd hlong (Nat.not_lt_zero _)
    | cons a as =>
        -- the first arrival only starts the tracking
        have hfirst : JitterTracking.updateJitter {} a = { mLastArrivalUs := a } := rfl
        have ha : 0 < a := hpos a List.mem_cons_self
        have hfold := JitterTracking.foldl_updateJitter (j := { mLastArrivalUs := a }) ha
          fun b hb => hpos b (List.mem_cons_of_mem _ hb)
        rw [List.foldl_cons, hfirst, hfold.1]
        apply JitterTracking.jitter_settles hlo (by norm_num) hn hlohi
          (JitterTracking.forall_gaps hgaps)
        rw [JitterTracking.length_gaps]
        rw [List.length_cons] at hlong
        omega
  refine ⟨hsettled, fun hadaptive b now => ?_⟩
  have hbase : cfg.nackBaseUs r.jitter ≤ max 10000 ((hi - lo + 30) * 4) := by
    rw [ReceiverConfig.nackBaseUs, hadaptive, if_neg (by decide)]
    exact max_le_max le_rfl (mul_le_mul_of_nonneg_right hsettled.2 (by norm_num))
  have hpositive := cfg.nackBaseUs_pos r.jitter
  have hwraps : int64ShiftLeft (cfg.nackBaseUs r.jitter) b.mNackCount.toNat ≤
      cfg.nackBaseUs r.jitter * 2 ^ b.mNackCount.toNat := by
    apply int64ShiftLeft_le
    exact hpositive.le
  rw [calculateNackDelayUs_eq]
  calc min _ _ ≤ int64ShiftLeft (cfg.nackBaseUs r.jitter) b.mNackCount.toNat := min_le_left _ _
    _ ≤ cfg.nackBaseUs r.jitter * 2 ^ b.mNackCount.toNat := hwraps
    _ ≤ max 10000 ((hi - lo + 30) * 4) * 2 ^ b.mNackCount.toNat :=
        mul_le_mul_of_nonneg_right hbase (by positivity)

/-- A packet every 20 ms, every other one a millisecond late. -/
def alternating : List Call :=
  (List.range 320).map fun k =>
    .packet { nowUs := fun _ => 5 + 20000 * k + 1000 * (k % 2), memalign := fun _ => true }
      (Sample.type1 0 [7]) 0

theorem nackDelay_settles_alternating :
    let r := ((machine .default {}).run (Receiver.fresh .default) alternating).1
    (0 ≤ r.jitter.mJitterUs ∧ r.jitter.mJitterUs ≤ 21000 - 19000 + 30) ∧
      (({} : ReceiverConfig).mNackIntervalMs = 0 → ∀ b now, r.calculateNackDelayUs {} b now ≤
        max 10000 ((21000 - 19000 + 30) * 4) * 2 ^ b.mNackCount.toNat) :=
  nackDelay_settles .default {} alternating 19000 21000 155 (by norm_num) (by norm_num)
    (by decide +kernel) (by decide +kernel) (by decide +kernel) (by decide +kernel)

end Receiver

end ElasticFrame
