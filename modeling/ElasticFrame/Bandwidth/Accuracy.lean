import ElasticFrame.Bandwidth.Probe
import ElasticFrame.Lib.MovingAverage

/-!
How good the RTT estimate is. The smoothed RTT is the moving average of the ages
that have been measured, so on a path whose round trips take between `lo` and
`hi` it stays below `hi` and comes to within 7 us of `lo`. The baseline is the
first smoothed value, an eighth of the first RTT, so on any such path with `hi`
not above twice `lo` the smoothed RTT is never seen near the baseline again.
-/

namespace ElasticFrame

open Lib

variable {F : Type*}

/-! ### The smoothed RTT -/

namespace BandwidthManager

variable [Field F] [LinearOrder F] [FloatOps F]

def sampleOf : BandwidthCall F → List ℤ
  | .updateRtt aRttUs => [aRttUs]
  | _ => []

theorem mSmoothedRttUs_step (senderCfg : SenderConfig) (cfg : BandwidthManagerConfig F)
    (s : BandwidthManager F) (c : BandwidthCall F) :
    ((machine senderCfg cfg).step s c).1.mSmoothedRttUs =
      MovingAverage.average 8 s.mSmoothedRttUs (sampleOf c) := by
  by_cases hcall : ∃ aRttUs, c = .updateRtt aRttUs
  · obtain ⟨aRttUs, rfl⟩ := hcall
    exact mSmoothedRttUs_updateRtt s aRttUs
  · have hsame := samePath_step senderCfg cfg s fun aRttUs heq => hcall ⟨aRttUs, heq⟩
    have hnone : sampleOf c = [] := by
      cases c with
      | updateRtt aRttUs => exact absurd ⟨aRttUs, rfl⟩ hcall
      | setStreamConfig | setManualMultiplier | clearManualMultiplier | send | receiveNack
      | processRetransmits | updateJitter | update => rfl
    rw [hsame.rtt, hnone]
    rfl

end BandwidthManager

namespace RttAges

def sampled (s : RttAges F) : RttEvent F → List ℤ
  | .response k =>
      (s.responses[k]?.map fun built => s.now - built).toList.filter
        fun age => age > 0 ∧ age < 30000000
  | .call c => BandwidthManager.sampleOf c
  | .wait _ | .probe | .answer _ _ => []

/-- A response that arrives answers a probe that has taken from `lo` to `hi`, and
nobody brings an RTT from elsewhere. -/
def Takes (lo hi : ℤ) (s : RttAges F) : RttEvent F → Prop
  | .response k => ∀ built ∈ s.responses[k]?, lo ≤ s.now - built ∧ s.now - built ≤ hi
  | .call c => BandwidthManager.sampleOf c = []
  | .wait _ | .probe | .answer _ _ => True

instance (lo hi : ℤ) (s : RttAges F) : (e : RttEvent F) → Decidable (s.Takes lo hi e)
  | .response k => inferInstanceAs (Decidable (∀ built ∈ s.responses[k]?, _ ∧ _))
  | .call _ => inferInstanceAs (Decidable (_ = _))
  | .wait _ | .probe | .answer _ _ => isTrue trivial

theorem Takes.sampled {lo hi : ℤ} {s : RttAges F} {e : RttEvent F} (h : s.Takes lo hi e) :
    ∀ age ∈ s.sampled e, (lo ≤ age ∧ age ≤ hi) ∧ 0 < age := by
  intro age hage
  cases e with
  | response k =>
      obtain ⟨hmem, hsane⟩ := List.mem_filter.mp hage
      obtain ⟨built, hbuilt, rfl⟩ := Option.map_eq_some_iff.mp (Option.mem_toList.mp hmem)
      exact ⟨h built hbuilt, (of_decide_eq_true hsane).1⟩
  | call c =>
      rw [RttAges.sampled, h] at hage
      exact absurd hage List.not_mem_nil
  | wait us => exact absurd hage List.not_mem_nil
  | probe => exact absurd hage List.not_mem_nil
  | answer k lNow => exact absurd hage List.not_mem_nil

variable [Field F] [LinearOrder F] [FloatOps F]

def samples (senderCfg : SenderConfig) (cfg : BandwidthManagerConfig F) (s : RttAges F)
    (es : List (RttEvent F)) : List ℤ :=
  (machine senderCfg cfg).flatten sampled s es

theorem mSmoothedRttUs_step (senderCfg : SenderConfig) (cfg : BandwidthManagerConfig F)
    (s : RttAges F) (e : RttEvent F) :
    ((machine senderCfg cfg).step s e).1.manager.mSmoothedRttUs =
      MovingAverage.average 8 s.manager.mSmoothedRttUs (s.sampled e) := by
  cases e with
  | wait us => rfl
  | probe => rfl
  | answer k lNow =>
      simp only [machine]
      cases s.probes[k]? <;> rfl
  | response k =>
      simp only [machine, sampled]
      cases s.responses[k]? with
      | none => rfl
      | some built =>
          simp only [BandwidthManager.measureRtt, Option.map_some, Option.toList_some,
            List.filter_cons, List.filter_nil]
          split_ifs with h h'
          · exact BandwidthManager.mSmoothedRttUs_updateRtt s.manager _
          · exact absurd (decide_eq_true h) h'
          · exact absurd (of_decide_eq_true ‹_›) h
          · rfl
  | call c => exact BandwidthManager.mSmoothedRttUs_step senderCfg cfg s.manager c

theorem mSmoothedRttUs_run (senderCfg : SenderConfig) (cfg : BandwidthManagerConfig F)
    (s : RttAges F) (es : List (RttEvent F)) :
    ((machine senderCfg cfg).run s es).1.manager.mSmoothedRttUs =
      MovingAverage.average 8 s.manager.mSmoothedRttUs (samples senderCfg cfg s es) := by
  induction es generalizing s with
  | nil => rfl
  | cons e es ih =>
      rw [Machine.run_cons, ih, mSmoothedRttUs_step, samples, samples, Machine.flatten]
      exact (List.foldl_append ..).symm

theorem forall_samples {senderCfg : SenderConfig} {cfg : BandwidthManagerConfig F} {lo hi : ℤ}
    {s : RttAges F} {es : List (RttEvent F)}
    (h : (machine senderCfg cfg).Along (Takes lo hi) s es) :
    ∀ age ∈ samples senderCfg cfg s es, (lo ≤ age ∧ age ≤ hi) ∧ 0 < age := by
  induction es generalizing s with
  | nil => exact fun age hage => absurd hage List.not_mem_nil
  | cons e es ih =>
      intro age hage
      rw [samples, Machine.flatten] at hage
      rcases List.mem_append.mp hage with hage | hage
      · exact h.1.sampled age hage
      · exact ih h.2 age hage

end RttAges

/-- Whatever is lost, repeated or reordered, if every response that arrives
comes from `lo` to `hi` after its probe was built, the smoothed RTT stays
between 0 and `hi`, and the `n`th one is not below `lo - 7` by more than
`lo * (7 / 8) ^ n`. -/
theorem RttPath.rtt_accuracy [Field F] [LinearOrder F] [FloatOps F] (senderCfg : SenderConfig)
    (cfg : BandwidthManagerConfig F) (start : ℤ) (es : List (RttEvent F)) (lo hi : ℤ)
    (hlo : 0 ≤ lo) (hhi : 0 ≤ hi)
    (hclock : (machine senderCfg cfg).Along (fun s _ => FitsInt64 s.now) (new senderCfg start) es)
    (htakes : (RttAges.machine senderCfg cfg).Along (RttAges.Takes lo hi)
      (RttAges.new senderCfg start) es) :
    let smoothed :=
      ((machine senderCfg cfg).run (new senderCfg start) es).1.prober.manager.mSmoothedRttUs
    let n := (RttAges.samples senderCfg cfg (RttAges.new senderCfg start) es).length
    0 ≤ smoothed ∧ smoothed ≤ hi ∧ 8 ^ n * (lo - 7 - smoothed) ≤ 7 ^ n * lo := by
  intro smoothed n
  set ages := RttAges.samples senderCfg cfg (RttAges.new senderCfg start) es
  have hsmoothed : smoothed = MovingAverage.average 8 0 ages := by
    have hmanager := (ages_run senderCfg cfg (ages_new senderCfg start) hclock).1.manager
    exact (congrArg BandwidthManager.mSmoothedRttUs hmanager).trans
      (RttAges.mSmoothedRttUs_run senderCfg cfg _ es)
  have hsamples := RttAges.forall_samples htakes
  have height : (0 : ℤ) < 8 := by norm_num
  refine ⟨?_, ?_, ?_⟩
  · rw [hsmoothed]
    exact MovingAverage.le_average height le_rfl fun age hage => (hsamples age hage).2.le
  · rw [hsmoothed]
    exact MovingAverage.average_le height hhi fun age hage => (hsamples age hage).1.2
  · have hshort : 8 ^ n * MovingAverage.shortfall 8 lo smoothed ≤
        7 ^ n * MovingAverage.shortfall 8 lo 0 := by
      rw [hsmoothed]
      exact MovingAverage.shortfall_average height fun age hage => (hsamples age hage).1.1
    have hnow : lo - 7 - smoothed ≤ MovingAverage.shortfall 8 lo smoothed := le_max_left _ _
    have hstart : MovingAverage.shortfall 8 lo 0 ≤ lo := max_le (by omega) hlo
    calc 8 ^ n * (lo - 7 - smoothed) ≤ 8 ^ n * MovingAverage.shortfall 8 lo smoothed :=
          mul_le_mul_of_nonneg_left hnow (by positivity)
      _ ≤ 7 ^ n * MovingAverage.shortfall 8 lo 0 := hshort
      _ ≤ 7 ^ n * lo := mul_le_mul_of_nonneg_left hstart (by positivity)

theorem RttPath.rtt_accuracy_crossing :
    let cfg : BandwidthManagerConfig ℚ := BandwidthManagerConfig.default
    let senderCfg := SenderConfig.new 256 .single 0 0
    let smoothed :=
      ((machine senderCfg cfg).run (new senderCfg 5) crossing).1.prober.manager.mSmoothedRttUs
    let n := (RttAges.samples senderCfg cfg (RttAges.new senderCfg 5) crossing).length
    0 ≤ smoothed ∧ smoothed ≤ 1050000 ∧ 8 ^ n * (30000 - 7 - smoothed) ≤ 7 ^ n * 30000 :=
  rtt_accuracy (SenderConfig.new 256 .single 0 0) BandwidthManagerConfig.default 5 crossing 30000
    1050000 (by norm_num) (by norm_num) (by decide +kernel) (by decide +kernel)

/-! ### The baseline -/

namespace BandwidthManager

/-- On a path whose round trips take from `lo` to `hi`: there was no sample yet,
or the baseline is an eighth of the first, and the smoothed RTT is still there or
at least three tenths above it. -/
structure Departs (lo hi : ℤ) (s : BandwidthManager F) : Prop where
  le : s.mSmoothedRttUs ≤ hi
  unstable : s.mStableRttSamples = 0
  baseline : s.mBaselineRttUs = 0 ∧ s.mSmoothedRttUs = 0 ∨
    lo ≤ 8 * s.mBaselineRttUs + 7 ∧ 8 * s.mBaselineRttUs ≤ hi ∧
      (s.mSmoothedRttUs = s.mBaselineRttUs ∨ 13 * s.mBaselineRttUs ≤ 10 * s.mSmoothedRttUs)

theorem Departs.samePath {lo hi : ℤ} {s s' : BandwidthManager F} (h : Departs lo hi s)
    (hsame : SamePath s s') : Departs lo hi s' := by
  obtain ⟨hle, hunstable, hbaseline⟩ := h
  rw [← hsame.rtt] at hle hbaseline
  rw [← hsame.baseline] at hbaseline
  refine ⟨hle, ?_, hbaseline⟩
  rcases hsame.stable with hkept | hzero
  · exact hkept.trans hunstable
  · exact hzero

theorem margin_of_move {baseline R next : ℤ} (hbaseline : 4 ≤ baseline)
    (hR : 32 ≤ R ∧ 4 * baseline ≤ R) (hmove : R + 7 * baseline ≤ 8 * next + 7) :
    13 * baseline ≤ 10 * next := by
  by_cases hlarge : 12 ≤ baseline
  · omega
  · -- below that the margin depends on how the division truncates
    interval_cases baseline <;> omega

variable [Field F] [LinearOrder F] [IsStrictOrderedRing F] [FloatOps F] [FloatOps.Accurate F]

theorem Departs.updateRtt {lo hi R : ℤ} {s : BandwidthManager F} (h : Departs lo hi s)
    (hlo : 32 ≤ lo) (hhi : hi ≤ 2 * lo) (hR : lo ≤ R ∧ R ≤ hi) : Departs lo hi (s.updateRtt R) := by
  have hrtt : (s.updateRtt R).mSmoothedRttUs = MovingAverage.move 8 s.mSmoothedRttUs R :=
    mSmoothedRttUs_updateRtt s R
  have hbaseline := mBaselineRttUs_updateRtt s R
  have hle : (s.updateRtt R).mSmoothedRttUs ≤ hi :=
    hrtt ▸ MovingAverage.move_le (by norm_num) h.le hR.2
  rcases h.baseline with ⟨hzero, hstart⟩ | ⟨hlow, hhigh, hplace⟩
  · -- the first sample
    rw [if_pos hzero] at hbaseline
    have hfirst := MovingAverage.move_of_le (d := 8) (x := 0) (s := R) (by norm_num) (by omega)
    have hexact : 8 * (R.tdiv 8) ≤ R := by
      rw [Int.tdiv_eq_ediv_of_nonneg (by omega)]
      omega
    rw [hstart] at hrtt
    rw [MovingAverage.move, sub_zero, zero_add] at hrtt hfirst
    refine ⟨hle, (mStableRttSamples_updateRtt_of_zero hzero R).trans h.unstable, .inr ?_⟩
    exact ⟨by omega, by omega, .inl hbaseline.symm⟩
  · have hpos : 0 < s.mBaselineRttUs := by omega
    rw [if_neg hpos.ne'] at hbaseline
    -- the sample takes the smoothed RTT away from the baseline, and none takes it back
    have hfar : 13 * s.mBaselineRttUs ≤ 10 * (s.updateRtt R).mSmoothedRttUs := by
      rcases le_total s.mSmoothedRttUs R with hup | hdown
      · obtain ⟨hmono, -, hmove⟩ := MovingAverage.move_of_le (d := 8) (by norm_num) hup
        rw [← hrtt] at hmono hmove
        rcases hplace with hequal | hleft
        · exact margin_of_move (R := R) (by omega) (by omega) (by omega)
        · omega
      · have hback := MovingAverage.le_move (d := 8) (by norm_num) hdown le_rfl
        rw [← hrtt] at hback
        omega
    refine ⟨hle, ?_, .inr ?_⟩
    · apply (mStableRttSamples_updateRtt hpos.ne' R).2
      exact not_nearBaseline (hbaseline.symm ▸ hpos) (hbaseline.symm ▸ hfar)
    · rw [hbaseline]
      exact ⟨hlow, hhigh, .inr hfar⟩

theorem Departs.measureRtt {lo hi age : ℤ} {s : BandwidthManager F} (h : Departs lo hi s)
    (hlo : 32 ≤ lo) (hhi : hi ≤ 2 * lo) (hage : lo ≤ age ∧ age ≤ hi) :
    Departs lo hi (s.measureRtt age) := by
  rw [BandwidthManager.measureRtt]
  split_ifs
  · exact h.updateRtt hlo hhi hage
  · exact h

end BandwidthManager

theorem RttAges.departs_step [Field F] [LinearOrder F] [IsStrictOrderedRing F] [FloatOps F]
    [FloatOps.Accurate F]
    (senderCfg : SenderConfig) (cfg : BandwidthManagerConfig F) {lo hi : ℤ} (hlo : 32 ≤ lo)
    (hhi : hi ≤ 2 * lo) {s : RttAges F} (h : s.manager.Departs lo hi) {e : RttEvent F}
    (he : s.Takes lo hi e) : ((machine senderCfg cfg).step s e).1.manager.Departs lo hi := by
  cases e with
  | wait us => exact h
  | probe => exact h
  | answer k lNow =>
      simp only [machine]
      cases s.probes[k]? <;> exact h
  | response k =>
      simp only [machine]
      cases hbuilt : s.responses[k]? with
      | none => exact h
      | some built => exact h.measureRtt hlo hhi (he built hbuilt)
  | call c =>
      refine h.samePath (BandwidthManager.samePath_step senderCfg cfg s.manager ?_)
      rintro R rfl
      exact absurd he (List.cons_ne_nil R [])

/-- If the round trips on a path take from `lo` to `hi`, with `hi` at most twice
`lo`, no sample is ever taken for stable, and as long as the recovery requires
any, probing never raises a multiplier. -/
theorem RttPath.never_stable [Field F] [LinearOrder F] [IsStrictOrderedRing F] [FloatOps F]
    [FloatOps.Accurate F]
    (senderCfg : SenderConfig) (cfg : BandwidthManagerConfig F) (start : ℤ)
    (es : List (RttEvent F)) (lo hi : ℤ) (hlo : 32 ≤ lo) (hhi : lo ≤ hi ∧ hi ≤ 2 * lo)
    (hclock : (machine senderCfg cfg).Along (fun s _ => FitsInt64 s.now) (new senderCfg start) es)
    (htakes : (RttAges.machine senderCfg cfg).Along (RttAges.Takes lo hi)
      (RttAges.new senderCfg start) es) :
    let manager := ((machine senderCfg cfg).run (new senderCfg start) es).1.prober.manager
    manager.mStableRttSamples = 0 ∧
      (cfg.mRecoveryWindowMs / cfg.mProbeIntervalMs ≠ 0 →
        ∀ aNow lNow, manager.processProbing cfg aNow lNow = (manager, [])) := by
  intro manager
  have hdeparts : manager.Departs lo hi := by
    have hnew : (RttAges.new senderCfg start : RttAges F).manager.Departs lo hi :=
      ⟨by show (0 : ℤ) ≤ hi; omega, rfl, .inl ⟨rfl, rfl⟩⟩
    have hages : manager = _ := (ages_run senderCfg cfg (ages_new senderCfg start) hclock).1.manager
    rw [hages]
    exact (RttAges.machine senderCfg cfg).run_invariant
      (I := fun s => s.manager.Departs lo hi)
      (fun s e hs he => RttAges.departs_step senderCfg cfg hlo hhi.2 hs he) hnew htakes
  refine ⟨hdeparts.unstable, fun hrequired aNow lNow => ?_⟩
  rw [BandwidthManager.processProbing, if_neg]
  rintro ⟨-, hstable⟩
  rw [hdeparts.unstable] at hstable
  exact hrequired (UInt32.le_zero_iff.mp hstable)

/-- Round trips of 40 ms and 60 ms. -/
def RttPath.varying : List (RttEvent ℚ) :=
  [.probe, .wait 20000, .answer 0 7, .wait 20000, .response 0, .probe, .answer 1 9, .wait 60000,
    .response 1, .call (.updateJitter 60000)]

theorem RttPath.never_stable_varying :
    let cfg : BandwidthManagerConfig ℚ := BandwidthManagerConfig.default
    let senderCfg := SenderConfig.new 256 .single 0 0
    let manager := ((machine senderCfg cfg).run (new senderCfg 5) varying).1.prober.manager
    manager.mStableRttSamples = 0 ∧
      (cfg.mRecoveryWindowMs / cfg.mProbeIntervalMs ≠ 0 →
        ∀ aNow lNow, manager.processProbing cfg aNow lNow = (manager, [])) :=
  never_stable (SenderConfig.new 256 .single 0 0) BandwidthManagerConfig.default 5 varying 40000
    60000 (by norm_num) (by norm_num) (by decide +kernel) (by decide +kernel)

end ElasticFrame
