import ElasticFrame.Bandwidth.Rtt
import ElasticFrame.Lib.Binary32

/-!
The divisions of the bandwidth manager. `update` divides by the time since the
last update, `processProbing` by the probe interval, and `updateRtt` by the
baseline. The last is never zero, since a zero baseline counts as none. The
first two are not zero unless the configuration, which the constructor takes as
it is, has an interval of zero. The operations of `float` need only be accurate.
-/

namespace ElasticFrame

open Lib

/-- The calls that bring metrics in or evaluate them. -/
inductive MetricCall
  | update (clk : UpdateClock)
  | updateRtt (aRttUs : ℤ)
  | updateJitter (aJitterUs : ℤ)
  | receiveNack (aData : List UInt8)
  | processRttResponse (lNow : ℤ) (aData : List UInt8)

/-- The arguments and clock readings are values of an `int64_t`. -/
def MetricCall.FitsInt64 : MetricCall → Prop
  | .update clk =>
      ElasticFrame.FitsInt64 clk.lNow ∧ ElasticFrame.FitsInt64 clk.changed ∧
        ElasticFrame.FitsInt64 clk.improved
  | .updateRtt aRttUs => ElasticFrame.FitsInt64 aRttUs
  | .updateJitter aJitterUs => ElasticFrame.FitsInt64 aJitterUs
  | .receiveNack _ => True
  | .processRttResponse lNow _ => ElasticFrame.FitsInt64 lNow

namespace BandwidthManager

variable {F : Type*} [Field F] [LinearOrder F] [FloatOps F]

def metricMachine (cfg : BandwidthManagerConfig F) :
    Machine (BandwidthManager F) MetricCall (BandwidthEvent F) where
  step s
    | .update clk => s.update cfg clk
    | .updateRtt aRttUs => (s.updateRtt aRttUs, [])
    | .updateJitter aJitterUs => (s.updateJitter aJitterUs, [])
    | .receiveNack aData => ((s.receiveNack aData).1, [])
    | .processRttResponse lNow aData => ((s.processRttResponse lNow aData).1, [])

/-! ### The divisors -/

def probingDivisors (cfg : BandwidthManagerConfig F) (s : BandwidthManager F) (aNow : ℤ) :
    List F :=
  if aNow - s.mRecoveryStartUs < (cfg.mRecoveryWindowMs.toNat : ℤ) * 1000 then []
  else [(cfg.mProbeIntervalMs.toNat : F)]

def updateDivisors (cfg : BandwidthManagerConfig F) (s : BandwidthManager F) (clk : UpdateClock) :
    List F :=
  if UpdateDue cfg s clk.lNow then
    let changed := ((s.measured clk.lNow).evaluated cfg clk.changed).1
    s.elapsed clk.lNow ::
      if changed.mCurrentHealth ≠ .healthy then changed.probingDivisors cfg clk.lNow else []
  else []

def rttDivisors (s : BandwidthManager F) : List F :=
  if s.mBaselineRttUs = 0 then [] else [FloatOps.ofInt s.mBaselineRttUs]

def divisors (cfg : BandwidthManagerConfig F) (s : BandwidthManager F) : MetricCall → List F
  | .update clk => s.updateDivisors cfg clk
  | .updateRtt _ => s.rttDivisors
  | .updateJitter _ | .receiveNack _ => []
  | .processRttResponse lNow aData =>
      let lpResponse := FrameType0RttResponse.read aData
      let lRtt := lNow - lpResponse.mTimestampUs.toInt64.toInt
      if FrameType0RttResponse.sizeof ≤ aData.length ∧
          getFrameType lpResponse.mFrameType = some .type0 ∧
            lpResponse.mSubtype = type0SubtypeRttResponse ∧ lRtt > 0 ∧ lRtt < 30000000 then
        s.rttDivisors
      else []

/-- No division of the call is by zero. -/
def Divides (cfg : BandwidthManagerConfig F) (s : BandwidthManager F) (call : MetricCall) : Prop :=
  ∀ d ∈ s.divisors cfg call, d ≠ 0

/-! ### Without NACKs -/

section

omit [FloatOps F]

/-- No NACK has come in, and the smoothed jitter is `jitter`. -/
structure Quiet (jitter : ℤ) (s : BandwidthManager F) : Prop where
  nackRate : s.mSmoothedNackRate = 0
  nackCount : s.mRecentNackCount = 0
  jitter : s.mSmoothedJitterUs = jitter

omit [LinearOrder F] in
theorem Quiet.unmeasured {jitter : ℤ} {s s' : BandwidthManager F} (h : Quiet jitter s)
    (hrest : Unmeasured s s') : Quiet jitter s' :=
  ⟨hrest.nackRate.trans h.nackRate, hrest.nackCount.trans h.nackCount, hrest.jitter.trans h.jitter⟩

theorem Quiet.health {jitter : ℤ} {s s' : BandwidthManager F} (h : Quiet jitter s)
    (h' : Quiet jitter s') (cfg : BandwidthManagerConfig F) :
    s.evaluateHealth cfg = s'.evaluateHealth cfg := by
  simp only [evaluateHealth, evaluateNackHealth, evaluateDelayHealth, h.nackRate, h'.nackRate,
    h.jitter, h'.jitter]

theorem Quiet.not_healthy {jitter : ℤ} {s : BandwidthManager F} (h : Quiet jitter s)
    {cfg : BandwidthManagerConfig F} (hjitter : cfg.mJitterDegradedUs ≤ jitter) :
    s.evaluateHealth cfg ≠ .healthy := by
  have hdelay : s.evaluateDelayHealth cfg ≠ .healthy := by
    rw [evaluateDelayHealth, h.jitter]
    split_ifs
    · decide
    · decide
  intro hhealthy
  have hle : s.evaluateDelayHealth cfg ≤ .healthy := hhealthy ▸ le_max_right _ _
  cases hcase : s.evaluateDelayHealth cfg with
  | healthy => exact hdelay hcase
  | degraded => rw [hcase] at hle; exact absurd hle (by decide)
  | congested => rw [hcase] at hle; exact absurd hle (by decide)
  | severe => rw [hcase] at hle; exact absurd hle (by decide)

theorem mRecoveryStartUs_evaluated {cfg : BandwidthManagerConfig F} {s : BandwidthManager F}
    (h : s.evaluateHealth cfg ≠ s.mCurrentHealth) (lNow : ℤ) :
    (s.evaluated cfg lNow).1.mRecoveryStartUs = lNow := by
  rw [evaluated, if_pos h]
  rfl

end

/-! ### Intervals that are not zero -/

variable [IsStrictOrderedRing F] [FloatOps.Accurate F]

theorem rttDivisors_ne_zero (s : BandwidthManager F) : ∀ d ∈ s.rttDivisors, d ≠ 0 := by
  intro d hd
  rw [rttDivisors] at hd
  split_ifs at hd with hzero
  · cases hd
  · rw [List.mem_singleton.mp hd]
    exact FloatOps.ofInt_ne_zero hzero

omit [FloatOps F] [FloatOps.Accurate F] in
theorem probingDivisors_ne_zero {cfg : BandwidthManagerConfig F} (hprobe : cfg.mProbeIntervalMs ≠ 0)
    (s : BandwidthManager F) (aNow : ℤ) : ∀ d ∈ s.probingDivisors cfg aNow, d ≠ 0 := by
  intro d hd
  rw [probingDivisors] at hd
  split_ifs at hd
  · cases hd
  · rw [List.mem_singleton.mp hd]
    exact Nat.cast_ne_zero.mpr fun hzero => hprobe (UInt32.toNat_inj.mp hzero)

theorem elapsed_pos {s : BandwidthManager F} {lNow : ℤ} (h : s.mLastUpdateUs < lNow) :
    0 < s.elapsed lNow := by
  have hpassed : 1 ≤ lNow - s.mLastUpdateUs := by omega
  have hpassedF : (1 : F) ≤ ((lNow - s.mLastUpdateUs : ℤ) : F) := by exact_mod_cast hpassed
  have hms := (FloatOps.ratio_bounds (F := F) (n := lNow - s.mLastUpdateUs) (d := 1000) (by omega)
    (by norm_num) (by omega)).1
  have hthousand := FloatOps.ofInt_bounds (F := F) (n := 1000) (by norm_num)
  rw [Int.cast_ofNat] at hms hthousand
  have hseconds := FloatOps.div_bounds (x := FloatOps.ratio (lNow - s.mLastUpdateUs) 1000)
    (y := (FloatOps.ofInt 1000 : F)) (by linarith) (by linarith) (by norm_num; linarith)
  have hquotient := div_pos (a := (FloatOps.ratio (lNow - s.mLastUpdateUs) 1000 : F))
    (b := FloatOps.ofInt 1000) (by linarith) (by linarith)
  show 0 < FloatOps.div (FloatOps.ratio (lNow - s.mLastUpdateUs) 1000 : F) (FloatOps.ofInt 1000)
  linarith

theorem elapsed_ne_zero {cfg : BandwidthManagerConfig F} (hupdate : cfg.mUpdateIntervalMs ≠ 0)
    {s : BandwidthManager F} {lNow : ℤ} (hdue : UpdateDue cfg s lNow) : s.elapsed lNow ≠ 0 := by
  have hpos : 0 < cfg.mUpdateIntervalMs.toNat :=
    Nat.pos_of_ne_zero fun hzero => hupdate (UInt32.toNat_inj.mp hzero)
  rw [UpdateDue] at hdue
  exact (elapsed_pos (by omega)).ne'

theorem divides_of_intervals {cfg : BandwidthManagerConfig F} (hupdate : cfg.mUpdateIntervalMs ≠ 0)
    (hprobe : cfg.mProbeIntervalMs ≠ 0) (s : BandwidthManager F) (call : MetricCall) :
    s.Divides cfg call := by
  cases call with
  | update clk =>
      intro d hd
      rw [divisors, updateDivisors] at hd
      split_ifs at hd with hdue
      · rcases List.mem_cons.mp hd with rfl | hd
        · exact elapsed_ne_zero hupdate hdue
        · split_ifs at hd
          · exact probingDivisors_ne_zero hprobe _ clk.lNow d hd
          · cases hd
      · cases hd
  | updateRtt aRttUs => exact s.rttDivisors_ne_zero
  | updateJitter aJitterUs => exact fun d hd => absurd hd List.not_mem_nil
  | receiveNack aData => exact fun d hd => absurd hd List.not_mem_nil
  | processRttResponse lNow aData =>
      intro d hd
      rw [divisors] at hd
      split_ifs at hd
      · exact s.rttDivisors_ne_zero d hd
      · cases hd

/-! ### Intervals of zero -/

def updateAt (lNow : ℤ) : MetricCall := .update ⟨lNow, lNow, lNow⟩

/-- After an update that is due, no time has passed at the same reading. -/
theorem elapsed_update {cfg : BandwidthManagerConfig F} {s : BandwidthManager F}
    {clk : UpdateClock} (hdue : UpdateDue cfg s clk.lNow) :
    (s.update cfg clk).1.elapsed clk.lNow = 0 := by
  have hlast : (s.update cfg clk).1.mLastUpdateUs = clk.lNow := (unmeasured_update hdue).lastUpdate
  have hthousand : (FloatOps.ofInt 1000 : F) ≠ 0 := FloatOps.ofInt_ne_zero (by norm_num)
  rw [elapsed, hlast, sub_self, FloatOps.ofInt_zero, FloatOps.div_of_zero hthousand,
    FloatOps.div_of_zero hthousand]

theorem not_divides_of_update {cfg : BandwidthManagerConfig F} (hzero : cfg.mUpdateIntervalMs = 0)
    {s : BandwidthManager F} {lNow : ℤ} (hlater : s.mLastUpdateUs ≤ lNow) :
    ¬ (s.update cfg ⟨lNow, lNow, lNow⟩).1.Divides cfg (updateAt lNow) := by
  have hdue : UpdateDue cfg s lNow := by
    rw [UpdateDue, hzero]
    simpa using hlater
  have hrest : Unmeasured (s.measured lNow) (s.update cfg ⟨lNow, lNow, lNow⟩).1 :=
    @unmeasured_update F _ _ _ cfg s ⟨lNow, lNow, lNow⟩ hdue
  have hlast : (s.update cfg ⟨lNow, lNow, lNow⟩).1.mLastUpdateUs = lNow := hrest.lastUpdate
  have helapsed : (s.update cfg ⟨lNow, lNow, lNow⟩).1.elapsed lNow = 0 :=
    @elapsed_update F _ _ _ _ _ cfg s ⟨lNow, lNow, lNow⟩ hdue
  have hdue' : UpdateDue cfg (s.update cfg ⟨lNow, lNow, lNow⟩).1 lNow := by
    rw [UpdateDue, hzero, hlast]
    simp
  intro hdivides
  refine hdivides 0 ?_ rfl
  rw [updateAt, divisors, updateDivisors, if_pos hdue']
  exact List.mem_cons.mpr (.inl helapsed.symm)

theorem Quiet.measured {jitter : ℤ} {s : BandwidthManager F} (h : Quiet jitter s) {lNow : ℤ}
    (helapsed : s.elapsed lNow ≠ 0) : Quiet jitter (s.measured lNow) := by
  refine ⟨?_, rfl, h.jitter⟩
  show FloatOps.add (FloatOps.mul s.mSmoothedNackRate _) (FloatOps.mul (FloatOps.div
    (FloatOps.ofInt s.mRecentNackCount.toNat) (s.elapsed lNow)) _) = 0
  rw [h.nackRate, h.nackCount]
  show FloatOps.add _ (FloatOps.mul (FloatOps.div (FloatOps.ofInt 0) _) _) = 0
  rw [FloatOps.ofInt_zero, FloatOps.div_of_zero helapsed, FloatOps.mul_of_zero,
    FloatOps.mul_of_zero, FloatOps.add_of_zero]

omit [IsStrictOrderedRing F] [FloatOps.Accurate F] in
/-- An update that comes to the probing divides by the probe interval. -/
theorem not_divides_of_probing {cfg : BandwidthManagerConfig F} (hzero : cfg.mProbeIntervalMs = 0)
    {s : BandwidthManager F} {lNow : ℤ} (hdue : UpdateDue cfg s lNow)
    (hbad : ((s.measured lNow).evaluated cfg lNow).1.mCurrentHealth ≠ .healthy)
    (hpassed : ¬ lNow - ((s.measured lNow).evaluated cfg lNow).1.mRecoveryStartUs <
      (cfg.mRecoveryWindowMs.toNat : ℤ) * 1000) : ¬ s.Divides cfg (updateAt lNow) := by
  intro hdivides
  refine hdivides (cfg.mProbeIntervalMs.toNat : F) ?_ ?_
  · rw [updateAt, divisors, updateDivisors, if_pos hdue]
    dsimp only
    rw [if_pos hbad, probingDivisors, if_neg hpassed]
    exact List.mem_cons_of_mem _ (List.mem_singleton_self _)
  · rw [hzero]
    exact Nat.cast_zero

/-- An update that degrades the health, and one at the end of the recovery
window: the second comes to the probing, if the first does not. -/
theorem not_divides_of_probe {cfg : BandwidthManagerConfig F} (hzero : cfg.mProbeIntervalMs = 0)
    (hupdate : cfg.mUpdateIntervalMs ≠ 0) {s : BandwidthManager F} {jitter lNow : ℤ}
    (hquiet : Quiet jitter s) (hjitter : cfg.mJitterDegradedUs ≤ jitter)
    (hhealthy : s.mCurrentHealth = .healthy) (hdue : UpdateDue cfg s lNow)
    (hdivides : s.Divides cfg (updateAt lNow)) :
    ¬ (s.update cfg ⟨lNow, lNow, lNow⟩).1.Divides cfg (updateAt (lNow +
      (cfg.mUpdateIntervalMs.toNat : ℤ) * 1000 + (cfg.mRecoveryWindowMs.toNat : ℤ) * 1000)) := by
  set t := ((s.measured lNow).evaluated cfg lNow).1 with ht
  have hmeasured := hquiet.measured (elapsed_ne_zero hupdate hdue)
  have hbad := hmeasured.not_healthy hjitter
  have hhealth : t.mCurrentHealth = (s.measured lNow).evaluateHealth cfg :=
    (evaluated_moves cfg (s.measured lNow) lNow).2
  have hstart : t.mRecoveryStartUs = lNow :=
    mRecoveryStartUs_evaluated (fun heq => hbad (heq.trans hhealthy)) lNow
  have hwindow : 0 < cfg.mRecoveryWindowMs.toNat := by
    -- without a window the update that degrades the health comes to the probing
    by_contra hwindow
    refine not_divides_of_probing hzero hdue (by rw [← ht, hhealth]; exact hbad) ?_ hdivides
    rw [← ht, hstart]
    omega
  -- the first update does not probe, and the second finds the health unchanged
  have hupdated : (s.update cfg ⟨lNow, lNow, lNow⟩).1 = t := by
    have hupdate' : (s.update cfg ⟨lNow, lNow, lNow⟩).1 = t.probed cfg ⟨lNow, lNow, lNow⟩ :=
      @update_of_due F _ _ _ cfg s ⟨lNow, lNow, lNow⟩ hdue
    rw [hupdate']
    refine probed_of_not_due fun hprobing => hprobing.1 ?_
    show lNow - t.mRecoveryStartUs < _
    rw [hstart]
    omega
  have hkept := unmeasured_evaluated cfg (s.measured lNow) lNow
  have hlast : t.mLastUpdateUs = lNow := hkept.lastUpdate
  rw [hupdated]
  generalize hlater : lNow + (cfg.mUpdateIntervalMs.toNat : ℤ) * 1000 +
    (cfg.mRecoveryWindowMs.toNat : ℤ) * 1000 = later
  have hdue' : UpdateDue cfg t later := by
    rw [UpdateDue, hlast]
    omega
  have hsame : (t.measured later).evaluateHealth cfg = (t.measured later).mCurrentHealth :=
    (((hmeasured.unmeasured hkept).measured (elapsed_ne_zero hupdate hdue')).health hmeasured
      cfg).trans hhealth.symm
  apply not_divides_of_probing hzero hdue'
  · rw [evaluated_of_eq hsame]
    show t.mCurrentHealth ≠ _
    rw [hhealth]
    exact hbad
  · rw [evaluated_of_eq hsame]
    show ¬ later - t.mRecoveryStartUs < _
    rw [hstart]
    omega

def NeverDividesByZero (cfg : BandwidthManagerConfig F) (senderCfg : SenderConfig)
    (calls : List MetricCall) : Prop :=
  (metricMachine cfg).Along (fun s call => s.Divides cfg call) (new senderCfg) calls

theorem fitsInt64_updateAt {lNow : ℤ} (h : ElasticFrame.FitsInt64 lNow) :
    (updateAt lNow).FitsInt64 :=
  ⟨h, h, h⟩

def twoUpdates : List MetricCall := [updateAt 0, updateAt 0]

theorem fitsInt64_twoUpdates : ∀ call ∈ twoUpdates, call.FitsInt64 := by
  intro call hcall
  rw [List.eq_of_mem_replicate (n := 2) hcall]
  exact fitsInt64_updateAt (by decide)

theorem not_neverDividesByZero_twoUpdates {cfg : BandwidthManagerConfig F}
    (hzero : cfg.mUpdateIntervalMs = 0) (senderCfg : SenderConfig) :
    ¬ NeverDividesByZero cfg senderCfg twoUpdates :=
  fun hnever => not_divides_of_update hzero le_rfl hnever.2.1

/-- A jitter that is too high, an update that finds it so, and one at the end
of the recovery window. -/
def degrading (cfg : BandwidthManagerConfig F) : List MetricCall :=
  [.updateJitter (16 * max cfg.mJitterDegradedUs 0),
    updateAt ((cfg.mUpdateIntervalMs.toNat : ℤ) * 1000),
    updateAt ((cfg.mUpdateIntervalMs.toNat : ℤ) * 1000 +
      (cfg.mUpdateIntervalMs.toNat : ℤ) * 1000 + (cfg.mRecoveryWindowMs.toNat : ℤ) * 1000)]

omit [Field F] [LinearOrder F] [FloatOps F] in
theorem fitsInt64_degrading {cfg : BandwidthManagerConfig F}
    (hjitter : cfg.mJitterDegradedUs ≤ 2 ^ 58) : ∀ call ∈ degrading cfg, call.FitsInt64 := by
  have hinterval : cfg.mUpdateIntervalMs.toNat < 2 ^ 32 := cfg.mUpdateIntervalMs.toNat_lt
  have hwindow : cfg.mRecoveryWindowMs.toNat < 2 ^ 32 := cfg.mRecoveryWindowMs.toNat_lt
  have hle : max cfg.mJitterDegradedUs 0 ≤ 2 ^ 58 := max_le hjitter (by norm_num)
  have hpos : 0 ≤ max cfg.mJitterDegradedUs 0 := le_max_right _ _
  intro call hcall
  simp only [degrading, List.mem_cons, List.not_mem_nil, or_false] at hcall
  rcases hcall with rfl | rfl | rfl
  · rw [MetricCall.FitsInt64, ElasticFrame.FitsInt64]
    omega
  · refine fitsInt64_updateAt ?_
    rw [ElasticFrame.FitsInt64]
    omega
  · refine fitsInt64_updateAt ?_
    rw [ElasticFrame.FitsInt64]
    omega

theorem not_neverDividesByZero_degrading {cfg : BandwidthManagerConfig F}
    (hzero : cfg.mProbeIntervalMs = 0) (hupdate : cfg.mUpdateIntervalMs ≠ 0)
    (senderCfg : SenderConfig) :
    ¬ NeverDividesByZero cfg senderCfg (degrading cfg) := by
  set T := max cfg.mJitterDegradedUs 0 with hT
  have hpos : 0 ≤ T := le_max_right _ _
  have hsmoothed : ((new (F := F) senderCfg).updateJitter (16 * T)).mSmoothedJitterUs = T := by
    have hdeviation : ¬ 16 * T < 0 := by omega
    simp only [updateJitter, new, if_neg hdeviation]
    rw [sub_zero, Int.mul_tdiv_cancel_left _ (by norm_num), zero_add]
  have hquiet : Quiet T ((new (F := F) senderCfg).updateJitter (16 * T)) := ⟨rfl, rfl, hsmoothed⟩
  have hdue : UpdateDue cfg ((new (F := F) senderCfg).updateJitter (16 * T))
      ((cfg.mUpdateIntervalMs.toNat : ℤ) * 1000) := by
    rw [UpdateDue]
    show ¬ (cfg.mUpdateIntervalMs.toNat : ℤ) * 1000 - 0 < _
    omega
  intro hnever
  exact not_divides_of_probe hzero hupdate hquiet (le_max_left _ _) rfl hdue hnever.2.1
    hnever.2.2.1

/-- With both intervals no run divides by zero; without one of them some run
does, at values that an `int64_t` has, if the jitter can degrade the health. -/
theorem neverDividesByZero_iff (senderCfg : SenderConfig) (cfg : BandwidthManagerConfig F) :
    (cfg.mUpdateIntervalMs ≠ 0 ∧ cfg.mProbeIntervalMs ≠ 0 →
        ∀ calls, NeverDividesByZero cfg senderCfg calls) ∧
      (cfg.mJitterDegradedUs ≤ 2 ^ 58 →
        (∀ calls, (∀ call ∈ calls, call.FitsInt64) → NeverDividesByZero cfg senderCfg calls) →
        cfg.mUpdateIntervalMs ≠ 0 ∧ cfg.mProbeIntervalMs ≠ 0) := by
  constructor
  · rintro ⟨hupdate, hprobe⟩ calls
    exact (metricMachine cfg).along_of_forall
      (fun s call _ => s.divides_of_intervals hupdate hprobe call) _
  · intro hjitter hnever
    have hupdate : cfg.mUpdateIntervalMs ≠ 0 := fun hzero =>
      not_neverDividesByZero_twoUpdates hzero senderCfg (hnever twoUpdates fitsInt64_twoUpdates)
    refine ⟨hupdate, fun hzero => ?_⟩
    exact not_neverDividesByZero_degrading hzero hupdate senderCfg
      (hnever (degrading cfg) (fitsInt64_degrading hjitter))

/-- The default configuration on a run that degrades the health and probes. -/
theorem neverDividesByZero_default :
    NeverDividesByZero (BandwidthManagerConfig.default (F := ℚ))
      (SenderConfig.new 1456 .single 1000 1000)
      [.updateJitter 1000000, updateAt 50000, .updateRtt 80000, updateAt 2000000] :=
  (neverDividesByZero_iff (SenderConfig.new 1456 .single 1000 1000)
    BandwidthManagerConfig.default).1 ⟨by decide, by decide⟩ _

/-- The default configuration without an update interval, and without a probe
interval. -/
theorem not_neverDividesByZero :
    ¬ NeverDividesByZero { BandwidthManagerConfig.default (F := ℚ) with mUpdateIntervalMs := 0 }
        (SenderConfig.new 1456 .single 1000 1000) [updateAt 0, updateAt 0] ∧
      ¬ NeverDividesByZero { BandwidthManagerConfig.default (F := ℚ) with mProbeIntervalMs := 0 }
        (SenderConfig.new 1456 .single 1000 1000)
        [.updateJitter 800000, updateAt 50000, updateAt 1100000] :=
  ⟨not_neverDividesByZero_twoUpdates rfl _, not_neverDividesByZero_degrading rfl (by decide) _⟩

end BandwidthManager

end ElasticFrame
