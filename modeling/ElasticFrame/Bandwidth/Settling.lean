import ElasticFrame.Bandwidth.Rtt
import ElasticFrame.Lib.MovingAverage

/-!
What becomes of a manager on a network that has become calm: no NACK is taken any
more, and the jitter stays below the thresholds. Every update takes three tenths of
the smoothed NACK rate away and every jitter sample a sixteenth of what the
smoothed jitter is too high by. So the health is good again after so many of them,
whatever it was, and stays good. From then on no update touches a stream: the
multipliers stay where the last change of the health has left them, which need not
be at one. The operations of `float` are taken to be exact here: what is rounded
need not go to zero.
-/

namespace ElasticFrame

open Lib

namespace BandwidthManager

variable {F : Type*} [Field F] [LinearOrder F]

/-! ### The averages -/

/-- What has to be smoothed away: the rate, and what the NACKs that have not been
measured yet may add to it. -/
def load (cfg : BandwidthManagerConfig F) (s : BandwidthManager F) : F :=
  s.mSmoothedNackRate + s.mRecentNackCount.toNat * (((1000 : ℕ) : F) / cfg.mUpdateIntervalMs.toNat)

omit [LinearOrder F] in
theorem load_eq (cfg : BandwidthManagerConfig F) (s : BandwidthManager F) :
    s.load cfg =
      s.mSmoothedNackRate + s.mRecentNackCount.toNat * (1000 / cfg.mUpdateIntervalMs.toNat) := by
  rw [load, Nat.cast_ofNat]

/-- No NACK is taken, and no jitter is above `J`. -/
def Calm (J : ℤ) (s : BandwidthManager F) : BandwidthCall F → Prop
  | .receiveNack aData => (s.receiveNack aData).2 ≠ .ok
  | .updateJitter aJitterUs => |aJitterUs| ≤ J
  | _ => True

def measures (cfg : BandwidthManagerConfig F) (s : BandwidthManager F) :
    BandwidthCall F → List UpdateClock
  | .update clk => if UpdateDue cfg s clk.lNow then [clk] else []
  | _ => []

omit [Field F] [LinearOrder F] in
theorem exists_of_measures {cfg : BandwidthManagerConfig F} {s : BandwidthManager F}
    {call : BandwidthCall F} (h : measures cfg s call ≠ []) :
    ∃ clk, call = .update clk ∧ UpdateDue cfg s clk.lNow := by
  cases call with
  | update clk =>
      refine ⟨clk, rfl, ?_⟩
      by_contra hdue
      exact h (if_neg hdue)
  | _ => exact absurd rfl h

variable [FloatOps F]

def measuredBy (senderCfg : SenderConfig) (cfg : BandwidthManagerConfig F)
    (s : BandwidthManager F) (calls : List (BandwidthCall F)) : List UpdateClock :=
  (machine senderCfg cfg).flatten (measures cfg) s calls

def jitterSamples : BandwidthCall F → List ℤ
  | .updateJitter aJitterUs => [|aJitterUs|]
  | _ => []

structure SameAverages (s s' : BandwidthManager F) : Prop where
  nackRate : s'.mSmoothedNackRate = s.mSmoothedNackRate
  nackCount : s'.mRecentNackCount = s.mRecentNackCount
  jitter : s'.mSmoothedJitterUs = s.mSmoothedJitterUs

omit [Field F] [LinearOrder F] [FloatOps F] in
theorem Unmeasured.sameAverages {s s' : BandwidthManager F} (h : Unmeasured s s') :
    SameAverages s s' :=
  ⟨h.nackRate, h.nackCount, h.jitter⟩

omit [LinearOrder F] [FloatOps F] in
theorem SameAverages.load {s s' : BandwidthManager F} (h : SameAverages s s')
    (cfg : BandwidthManagerConfig F) : s'.load cfg = s.load cfg := by
  rw [BandwidthManager.load, h.nackRate, h.nackCount, BandwidthManager.load]

omit [FloatOps F] in
theorem sameAverages_updateStreamMultiplier (s : BandwidthManager F) (aStreamId : UInt8) :
    SameAverages s (s.updateStreamMultiplier aStreamId).1 := by
  rw [updateStreamMultiplier_eq]
  exact (unmeasured_setMultiplier s aStreamId _).sameAverages

/-- On a calm network only `update` and `updateJitter` touch the averages. -/
theorem sameAverages_step (senderCfg : SenderConfig) (cfg : BandwidthManagerConfig F) {J : ℤ}
    {s : BandwidthManager F} {call : BandwidthCall F} (hcalm : Calm J s call)
    (hmeasures : measures cfg s call = []) (hjitter : jitterSamples call = []) :
    SameAverages s ((machine senderCfg cfg).step s call).1 := by
  cases call with
  | setStreamConfig aStreamId aConfig =>
      have h := sameAverages_updateStreamMultiplier
        { s with mStreamConfigs := Function.update s.mStreamConfigs aStreamId aConfig } aStreamId
      exact ⟨h.nackRate, h.nackCount, h.jitter⟩
  | setManualMultiplier aStreamId aMultiplier =>
      have h := sameAverages_updateStreamMultiplier
        { s with
          mManualMultiplier :=
            Function.update s.mManualMultiplier aStreamId (clamp aMultiplier 0 1) } aStreamId
      exact ⟨h.nackRate, h.nackCount, h.jitter⟩
  | clearManualMultiplier aStreamId =>
      have h := sameAverages_updateStreamMultiplier
        { s with
          mManualMultiplier := Function.update s.mManualMultiplier aStreamId (-1) } aStreamId
      exact ⟨h.nackRate, h.nackCount, h.jitter⟩
  | send clk aData args =>
      simp only [machine, send]
      split_ifs <;> exact ⟨rfl, rfl, rfl⟩
  | receiveNack aData =>
      have hrefused : (s.mSender.receiveNack aData).2 ≠ .ok := by
        intro hok
        refine hcalm ?_
        rw [receiveNack, if_pos hok]
        exact hok
      simp only [machine, receiveNack, if_neg hrefused]
      exact ⟨rfl, rfl, rfl⟩
  | processRetransmits aMaxCount => exact ⟨rfl, rfl, rfl⟩
  | updateJitter aJitterUs => cases hjitter
  | updateRtt aRttUs =>
      simp only [machine, updateRtt]
      split_ifs <;> exact ⟨rfl, rfl, rfl⟩
  | update clk =>
      by_cases hdue : UpdateDue cfg s clk.lNow
      · rw [measures, if_pos hdue] at hmeasures
        cases hmeasures
      · have hstay : ((machine senderCfg cfg).step s (.update clk)).1 = s := update_of_not_due hdue
        rw [hstay]
        exact ⟨rfl, rfl, rfl⟩

theorem mSmoothedJitterUs_step (senderCfg : SenderConfig) (cfg : BandwidthManagerConfig F) {J : ℤ}
    {s : BandwidthManager F} {call : BandwidthCall F} (hcalm : Calm J s call) :
    ((machine senderCfg cfg).step s call).1.mSmoothedJitterUs =
      MovingAverage.average 16 s.mSmoothedJitterUs (jitterSamples call) := by
  by_cases hmeasures : measures cfg s call = []
  · by_cases hjitter : jitterSamples call = []
    · rw [hjitter]
      exact (sameAverages_step senderCfg cfg hcalm hmeasures hjitter).jitter
    · cases call with
      | updateJitter aJitterUs =>
          have habs : (if aJitterUs < 0 then -aJitterUs else aJitterUs) = |aJitterUs| := by
            split_ifs with h
            · exact (abs_of_neg h).symm
            · exact (abs_of_nonneg (not_lt.mp h)).symm
          simp only [machine, updateJitter, habs]
          rfl
      | _ => exact absurd rfl hjitter
  · obtain ⟨clk, rfl, hdue⟩ := exists_of_measures hmeasures
    exact (unmeasured_update hdue).jitter

theorem mSmoothedJitterUs_run (senderCfg : SenderConfig) (cfg : BandwidthManagerConfig F) {J : ℤ}
    {s : BandwidthManager F} {calls : List (BandwidthCall F)}
    (hcalm : (machine senderCfg cfg).Along (Calm J) s calls) :
    ((machine senderCfg cfg).run s calls).1.mSmoothedJitterUs =
      MovingAverage.average 16 s.mSmoothedJitterUs (calls.flatMap jitterSamples) := by
  induction calls generalizing s with
  | nil => rfl
  | cons call calls ih =>
      rw [Machine.run_cons, List.flatMap_cons, MovingAverage.average, List.foldl_append]
      refine (ih hcalm.2).trans ?_
      rw [mSmoothedJitterUs_step senderCfg cfg hcalm.1]
      rfl

theorem le_of_mem_jitterSamples {senderCfg : SenderConfig} {cfg : BandwidthManagerConfig F} {J : ℤ}
    {s : BandwidthManager F} {calls : List (BandwidthCall F)}
    (hcalm : (machine senderCfg cfg).Along (Calm J) s calls) :
    ∀ x ∈ calls.flatMap jitterSamples, x ≤ J := by
  induction calls generalizing s with
  | nil => exact fun x hx => absurd hx List.not_mem_nil
  | cons call calls ih =>
      intro x hx
      rcases List.mem_append.mp hx with hx | hx
      · cases call with
        | updateJitter aJitterUs => exact List.mem_singleton.mp hx ▸ hcalm.1
        | _ => exact absurd hx List.not_mem_nil
      · exact ih hcalm.2 x hx

variable [IsStrictOrderedRing F]

omit [FloatOps F] in
theorem mSmoothedNackRate_le_load (cfg : BandwidthManagerConfig F) (s : BandwidthManager F) :
    s.mSmoothedNackRate ≤ s.load cfg := by
  have hpos : (0 : F) ≤ s.mRecentNackCount.toNat * (1000 / cfg.mUpdateIntervalMs.toNat) := by
    positivity
  rw [load_eq]
  exact le_add_of_nonneg_right hpos

variable [FloatOps.Exact F]

theorem load_measured {cfg : BandwidthManagerConfig F} (hinterval : cfg.mUpdateIntervalMs ≠ 0)
    {s : BandwidthManager F} {lNow : ℤ} (hdue : UpdateDue cfg s lNow) :
    (s.measured lNow).load cfg ≤ 7 / 10 * s.load cfg := by
  have hms : 0 < cfg.mUpdateIntervalMs.toNat :=
    Nat.pos_of_ne_zero fun hzero => hinterval (UInt32.toNat_inj.mp hzero)
  have hmsF : (0 : F) < (cfg.mUpdateIntervalMs.toNat : F) := Nat.cast_pos.mpr hms
  have hlong : (cfg.mUpdateIntervalMs.toNat : ℤ) * 1000 ≤ lNow - s.mLastUpdateUs := not_lt.mp hdue
  have hlongF : (cfg.mUpdateIntervalMs.toNat : F) * 1000 ≤ ((lNow - s.mLastUpdateUs : ℤ) : F) := by
    exact_mod_cast hlong
  -- the time since the last update is at least the interval
  have helapsed : (cfg.mUpdateIntervalMs.toNat : F) / 1000 ≤
      ((lNow - s.mLastUpdateUs : ℤ) : F) / 1000 / 1000 := by
    rw [div_div, div_le_div_iff₀ (by norm_num) (by norm_num)]
    linarith
  have hcount : (0 : F) ≤ (s.mRecentNackCount.toNat : F) := Nat.cast_nonneg _
  have hrate : (s.mRecentNackCount.toNat : F) / (((lNow - s.mLastUpdateUs : ℤ) : F) / 1000 / 1000) ≤
      s.mRecentNackCount.toNat * (1000 / cfg.mUpdateIntervalMs.toNat) := by
    calc (s.mRecentNackCount.toNat : F) / (((lNow - s.mLastUpdateUs : ℤ) : F) / 1000 / 1000)
        ≤ s.mRecentNackCount.toNat / ((cfg.mUpdateIntervalMs.toNat : F) / 1000) :=
          div_le_div_of_nonneg_left hcount (div_pos hmsF (by norm_num)) helapsed
      _ = s.mRecentNackCount.toNat * (1000 / cfg.mUpdateIntervalMs.toNat) := by
          rw [div_eq_mul_inv, inv_div]
  have hpos : (0 : F) ≤ s.mRecentNackCount.toNat * (1000 / cfg.mUpdateIntervalMs.toNat) := by
    positivity
  have hafter : (s.measured lNow).load cfg = s.mSmoothedNackRate * (7 / 10) +
      s.mRecentNackCount.toNat / (((lNow - s.mLastUpdateUs : ℤ) : F) / 1000 / 1000) * (3 / 10) := by
    simp [load, measured, FloatOps.Exact.add_eq, FloatOps.Exact.mul_eq, FloatOps.Exact.div_eq,
      FloatOps.Exact.ofInt_eq, FloatOps.Exact.ratio_eq]
  rw [hafter, load_eq]
  norm_num at hrate hpos ⊢
  linarith

theorem load_step (senderCfg : SenderConfig) {cfg : BandwidthManagerConfig F}
    (hinterval : cfg.mUpdateIntervalMs ≠ 0) {J : ℤ} {s : BandwidthManager F}
    {call : BandwidthCall F} (hcalm : Calm J s call) :
    ((machine senderCfg cfg).step s call).1.load cfg ≤
      (7 / 10) ^ (measures cfg s call).length * s.load cfg := by
  by_cases hmeasures : measures cfg s call = []
  · rw [hmeasures, List.length_nil, pow_zero, one_mul]
    cases call with
    | updateJitter aJitterUs => exact le_refl (s.load cfg)
    | _ => exact ((sameAverages_step senderCfg cfg hcalm hmeasures rfl).load cfg).le
  · obtain ⟨clk, rfl, hdue⟩ := exists_of_measures hmeasures
    have hsame : ((machine senderCfg cfg).step s (.update clk)).1.load cfg = _ :=
      (unmeasured_update hdue).sameAverages.load cfg
    rw [hsame, measures, if_pos hdue, List.length_singleton, pow_one]
    exact load_measured hinterval hdue

theorem load_run (senderCfg : SenderConfig) {cfg : BandwidthManagerConfig F}
    (hinterval : cfg.mUpdateIntervalMs ≠ 0) {J : ℤ} {s : BandwidthManager F}
    {calls : List (BandwidthCall F)} (hcalm : (machine senderCfg cfg).Along (Calm J) s calls) :
    ((machine senderCfg cfg).run s calls).1.load cfg ≤
      (7 / 10) ^ (measuredBy senderCfg cfg s calls).length * s.load cfg := by
  induction calls generalizing s with
  | nil =>
      have hnone : (7 / 10 : F) ^ 0 * s.load cfg = s.load cfg := by rw [pow_zero, one_mul]
      exact hnone.ge
  | cons call calls ih =>
      have hpow : (0 : F) ≤ (7 / 10) ^
          (measuredBy senderCfg cfg ((machine senderCfg cfg).step s call).1 calls).length := by
        positivity
      rw [measuredBy, Machine.flatten, List.length_append, add_comm, pow_add, mul_assoc]
      exact (ih hcalm.2).trans
        (mul_le_mul_of_nonneg_left (load_step senderCfg hinterval hcalm.1) hpow)

/-! ### The health -/

/-- What the load is to be below. -/
def nackThreshold (cfg : BandwidthManagerConfig F) : F :=
  min cfg.mNackRateDegraded (min cfg.mNackRateCongested cfg.mNackRateSevere)

/-- What the smoothed jitter is to be below. -/
def jitterThreshold (cfg : BandwidthManagerConfig F) : ℤ :=
  min cfg.mJitterDegradedUs cfg.mJitterCongestedUs

structure BelowThresholds (cfg : BandwidthManagerConfig F) (s : BandwidthManager F) : Prop where
  load : s.load cfg < nackThreshold cfg
  jitter : s.mSmoothedJitterUs < jitterThreshold cfg

omit [FloatOps F] [FloatOps.Exact F] in
theorem BelowThresholds.evaluateHealth {cfg : BandwidthManagerConfig F} {s : BandwidthManager F}
    (h : s.BelowThresholds cfg) : s.evaluateHealth cfg = .healthy := by
  have hrate := (mSmoothedNackRate_le_load cfg s).trans_lt h.load
  obtain ⟨hdegraded, hworse⟩ := lt_min_iff.mp hrate
  obtain ⟨hcongested, hsevere⟩ := lt_min_iff.mp hworse
  obtain ⟨hjitter, hjitter'⟩ := lt_min_iff.mp h.jitter
  rw [BandwidthManager.evaluateHealth, evaluateNackHealth, if_neg hsevere.not_ge,
    if_neg hcongested.not_ge, if_neg hdegraded.not_ge, evaluateDelayHealth,
    if_neg hjitter'.not_ge, if_neg hjitter.not_ge]
  rfl

theorem healthy_le (aHealth : NetworkHealth) : .healthy ≤ aHealth := by
  cases aHealth <;> decide

omit [FloatOps F] [FloatOps.Exact F] in
theorem scaled_lt {c x y : F} (hc : 0 ≤ c ∧ c ≤ 1) (hy : 0 < y) (h : x < y) : c * x < y := by
  rcases le_total x 0 with hneg | hpos
  · exact (mul_nonpos_of_nonneg_of_nonpos hc.1 hneg).trans_lt hy
  · exact (mul_le_of_le_one_left hpos hc.2).trans_lt h

theorem BelowThresholds.measured {cfg : BandwidthManagerConfig F}
    (hinterval : cfg.mUpdateIntervalMs ≠ 0) (hnack : 0 < nackThreshold cfg)
    {s : BandwidthManager F} (h : s.BelowThresholds cfg) {lNow : ℤ}
    (hdue : UpdateDue cfg s lNow) : (s.measured lNow).BelowThresholds cfg where
  load := (load_measured hinterval hdue).trans_lt
    (scaled_lt ⟨by norm_num, by norm_num⟩ hnack h.load)
  jitter := h.jitter

theorem BelowThresholds.step (senderCfg : SenderConfig) {cfg : BandwidthManagerConfig F}
    (hinterval : cfg.mUpdateIntervalMs ≠ 0) (hnack : 0 < nackThreshold cfg) {J : ℤ}
    (hJ : J < jitterThreshold cfg) {s : BandwidthManager F} (h : s.BelowThresholds cfg)
    {call : BandwidthCall F} (hcalm : Calm J s call) :
    ((machine senderCfg cfg).step s call).1.BelowThresholds cfg where
  load := by
    have hpow : (0 : F) ≤ (7 / 10) ^ (measures cfg s call).length ∧
        (7 / 10 : F) ^ (measures cfg s call).length ≤ 1 :=
      ⟨by positivity, pow_le_one₀ (by norm_num) (by norm_num)⟩
    exact (load_step senderCfg hinterval hcalm).trans_lt (scaled_lt hpow hnack h.load)
  jitter := by
    rw [mSmoothedJitterUs_step senderCfg cfg hcalm]
    have hsamples : ∀ x ∈ jitterSamples call, x ≤ jitterThreshold cfg - 1 := by
      intro x hx
      cases call with
      | updateJitter aJitterUs =>
          have hle : x ≤ J := List.mem_singleton.mp hx ▸ hcalm
          omega
      | _ => exact absurd hx List.not_mem_nil
    have hle := MovingAverage.average_le (d := 16) (by norm_num) (Int.le_sub_one_of_lt h.jitter)
      hsamples
    omega

/-- An update that measures makes the health good, and if it is good already does
nothing else. -/
theorem BelowThresholds.update {cfg : BandwidthManagerConfig F}
    (hinterval : cfg.mUpdateIntervalMs ≠ 0) (hnack : 0 < nackThreshold cfg)
    {s : BandwidthManager F} (h : s.BelowThresholds cfg) (clk : UpdateClock)
    (hdue : UpdateDue cfg s clk.lNow) :
    (s.update cfg clk).1.mCurrentHealth = .healthy ∧
      (s.mCurrentHealth = .healthy → s.update cfg clk = (s.measured clk.lNow, [])) := by
  have hhealth := (h.measured hinterval hnack hdue).evaluateHealth
  constructor
  · obtain ⟨-, hevaluated⟩ := evaluated_moves cfg (s.measured clk.lNow) clk.changed
    have hle := (probed_moves cfg ((s.measured clk.lNow).evaluated cfg clk.changed).1 clk).2
    rw [hevaluated, hhealth] at hle
    rw [update_of_due hdue]
    exact le_antisymm hle (healthy_le _)
  · intro hhealthy
    have hsame : (s.measured clk.lNow).mCurrentHealth = .healthy := hhealthy
    have hevaluated : (s.measured clk.lNow).evaluated cfg clk.changed =
        (s.measured clk.lNow, []) := by
      rw [evaluated, hhealth, hsame, if_neg (not_not.mpr rfl)]
    rw [BandwidthManager.update, if_pos hdue, hevaluated]
    simp only [hsame, ne_eq, not_true_eq_false, if_false, List.append_nil]

/-! ### Whole runs -/

omit [IsStrictOrderedRing F] [FloatOps F] [FloatOps.Exact F] in
theorem mCurrentHealth_updateStreamMultiplier (s : BandwidthManager F) (aStreamId : UInt8) :
    (s.updateStreamMultiplier aStreamId).1.mCurrentHealth = s.mCurrentHealth := by
  rw [updateStreamMultiplier_eq, setMultiplier]
  split_ifs <;> rfl

omit [IsStrictOrderedRing F] [FloatOps.Exact F] in
theorem mCurrentHealth_step (senderCfg : SenderConfig) {cfg : BandwidthManagerConfig F}
    {s : BandwidthManager F} {call : BandwidthCall F} (hmeasures : measures cfg s call = []) :
    ((machine senderCfg cfg).step s call).1.mCurrentHealth = s.mCurrentHealth := by
  cases call with
  | setStreamConfig aStreamId aConfig =>
      exact mCurrentHealth_updateStreamMultiplier
        { s with mStreamConfigs := Function.update s.mStreamConfigs aStreamId aConfig } aStreamId
  | setManualMultiplier aStreamId aMultiplier =>
      exact mCurrentHealth_updateStreamMultiplier
        { s with
          mManualMultiplier :=
            Function.update s.mManualMultiplier aStreamId (clamp aMultiplier 0 1) } aStreamId
  | clearManualMultiplier aStreamId =>
      exact mCurrentHealth_updateStreamMultiplier
        { s with
          mManualMultiplier := Function.update s.mManualMultiplier aStreamId (-1) } aStreamId
  | send clk aData args =>
      simp only [machine, send]
      split_ifs <;> rfl
  | receiveNack aData =>
      simp only [machine, receiveNack]
      split_ifs <;> rfl
  | processRetransmits aMaxCount => rfl
  | updateJitter aJitterUs => rfl
  | updateRtt aRttUs =>
      simp only [machine, updateRtt]
      split_ifs <;> rfl
  | update clk =>
      have hdue : ¬ UpdateDue cfg s clk.lNow := by
        intro hdue
        rw [measures, if_pos hdue] at hmeasures
        cases hmeasures
      have hstay : ((machine senderCfg cfg).step s (.update clk)).1 = s := update_of_not_due hdue
      rw [hstay]

theorem BelowThresholds.run (senderCfg : SenderConfig) {cfg : BandwidthManagerConfig F}
    (hinterval : cfg.mUpdateIntervalMs ≠ 0) (hnack : 0 < nackThreshold cfg) {J : ℤ}
    (hJ : J < jitterThreshold cfg) {s : BandwidthManager F} (h : s.BelowThresholds cfg)
    {calls : List (BandwidthCall F)} (hcalm : (machine senderCfg cfg).Along (Calm J) s calls) :
    ((machine senderCfg cfg).run s calls).1.BelowThresholds cfg :=
  (machine senderCfg cfg).run_invariant (I := BelowThresholds cfg)
    (fun _ _ hs hcall => hs.step senderCfg hinterval hnack hJ hcall) h hcalm

/-- The first update that measures makes the health good, and it stays so. -/
theorem BelowThresholds.healthy_run (senderCfg : SenderConfig) {cfg : BandwidthManagerConfig F}
    (hinterval : cfg.mUpdateIntervalMs ≠ 0) (hnack : 0 < nackThreshold cfg) {J : ℤ}
    (hJ : J < jitterThreshold cfg) {s : BandwidthManager F} (h : s.BelowThresholds cfg)
    {calls : List (BandwidthCall F)} (hcalm : (machine senderCfg cfg).Along (Calm J) s calls)
    (hhealthy : s.mCurrentHealth = .healthy ∨ measuredBy senderCfg cfg s calls ≠ []) :
    ((machine senderCfg cfg).run s calls).1.mCurrentHealth = .healthy := by
  induction calls generalizing s with
  | nil => exact hhealthy.resolve_right fun hne => hne rfl
  | cons call calls ih =>
      have hstep := h.step senderCfg hinterval hnack hJ hcalm.1
      refine ih hstep hcalm.2 ?_
      by_cases hmeasures : measures cfg s call = []
      · rw [mCurrentHealth_step senderCfg hmeasures]
        rwa [measuredBy, Machine.flatten, hmeasures, List.nil_append] at hhealthy
      · obtain ⟨clk, rfl, hdue⟩ := exists_of_measures hmeasures
        exact .inl (h.update hinterval hnack clk hdue).1

theorem belowThresholds_of_run (senderCfg : SenderConfig) {cfg : BandwidthManagerConfig F}
    (hinterval : cfg.mUpdateIntervalMs ≠ 0) {J : ℤ} (hJ : J + 15 < jitterThreshold cfg)
    {s : BandwidthManager F} {calls : List (BandwidthCall F)}
    (hcalm : (machine senderCfg cfg).Along (Calm J) s calls)
    (hupdates : (7 / 10) ^ (measuredBy senderCfg cfg s calls).length * s.load cfg <
      nackThreshold cfg)
    (hsamples : 15 ^ (calls.flatMap jitterSamples).length *
        max (s.mSmoothedJitterUs - J - 15) 0 <
      16 ^ (calls.flatMap jitterSamples).length) :
    ((machine senderCfg cfg).run s calls).1.BelowThresholds cfg where
  load := (load_run senderCfg hinterval hcalm).trans_lt hupdates
  jitter := by
    rw [mSmoothedJitterUs_run senderCfg cfg hcalm]
    have hle := MovingAverage.average_le_of_pow (d := 16) (by norm_num)
      (le_of_mem_jitterSamples hcalm) hsamples
    omega

/-- A manager in any state, on a network that is calm from now on: after enough
updates and enough jitter samples, the next update makes the health good. Then it
stays good, and no update calls a callback, changes a multiplier or pauses a
stream. -/
theorem settles (senderCfg : SenderConfig) (cfg : BandwidthManagerConfig F)
    (hinterval : cfg.mUpdateIntervalMs ≠ 0) (hnack : 0 < nackThreshold cfg) (J : ℤ)
    (hJ : J + 15 < jitterThreshold cfg) (s : BandwidthManager F)
    (calls later : List (BandwidthCall F))
    (hcalm : (machine senderCfg cfg).Along (Calm J) s (calls ++ later))
    (hupdates : (7 / 10) ^ (measuredBy senderCfg cfg s calls).length * s.load cfg <
      nackThreshold cfg)
    (hsamples : 15 ^ (calls.flatMap jitterSamples).length *
        max (s.mSmoothedJitterUs - J - 15) 0 <
      16 ^ (calls.flatMap jitterSamples).length)
    (hnext : measuredBy senderCfg cfg ((machine senderCfg cfg).run s calls).1 later ≠ []) :
    let t := ((machine senderCfg cfg).run s (calls ++ later)).1
    t.mCurrentHealth = .healthy ∧
      ∀ clk, (t.update cfg clk).2 = [] ∧ ∀ lI, (t.update cfg clk).1.stream lI = t.stream lI := by
  intro t
  obtain ⟨hbefore, hafter⟩ := ((machine senderCfg cfg).along_append _ _ _ _).mp hcalm
  have hbelow := belowThresholds_of_run senderCfg hinterval hJ hbefore hupdates hsamples
  have hlow : J < jitterThreshold cfg := by omega
  have ht : t = ((machine senderCfg cfg).run
      ((machine senderCfg cfg).run s calls).1 later).1 := by
    show ((machine senderCfg cfg).run s (calls ++ later)).1 = _
    rw [Machine.run_append]
  have hhealthy : t.mCurrentHealth = .healthy :=
    ht ▸ hbelow.healthy_run senderCfg hinterval hnack hlow hafter (.inr hnext)
  have hend : t.BelowThresholds cfg := ht ▸ hbelow.run senderCfg hinterval hnack hlow hafter
  refine ⟨hhealthy, fun clk => ?_⟩
  by_cases hdue : UpdateDue cfg t clk.lNow
  · rw [(hend.update hinterval hnack clk hdue).2 hhealthy]
    exact ⟨rfl, fun _ => rfl⟩
  · rw [BandwidthManager.update, if_neg hdue]
    exact ⟨rfl, fun _ => rfl⟩

def degraded : BandwidthManager ℚ :=
  { BandwidthManager.new (SenderConfig.new 256 .single 0 0) with
    mSmoothedNackRate := 6
    mCurrentHealth := .degraded }

def updateAtOnce (lNow : ℤ) : BandwidthCall ℚ := .update ⟨lNow, lNow, lNow⟩

theorem settles_degraded :
    letI := FloatOps.exact ℚ
    let cfg : BandwidthManagerConfig ℚ := BandwidthManagerConfig.default
    let t := ((machine (SenderConfig.new 256 .single 0 0) cfg).run degraded
      ([updateAtOnce 50000] ++ [updateAtOnce 100000])).1
    t.mCurrentHealth = .healthy ∧
      ∀ clk, (t.update cfg clk).2 = [] ∧ ∀ lI, (t.update cfg clk).1.stream lI = t.stream lI := by
  let := FloatOps.exact ℚ
  refine settles (SenderConfig.new 256 .single 0 0) BandwidthManagerConfig.default (by decide)
    (by decide +kernel) 0 (by decide) degraded [updateAtOnce 50000] [updateAtOnce 100000]
    ⟨trivial, trivial, trivial⟩ (by decide +kernel) (by decide) ?_
  have hlast : (degraded.update BandwidthManagerConfig.default
      ⟨50000, 50000, 50000⟩).1.mLastUpdateUs = 50000 :=
    (unmeasured_update (by decide)).lastUpdate
  have hdue : UpdateDue BandwidthManagerConfig.default (degraded.update
      BandwidthManagerConfig.default ⟨50000, 50000, 50000⟩).1 100000 := by
    rw [UpdateDue, hlast]
    decide
  exact List.append_ne_nil_of_left_ne_nil
    (ne_of_eq_of_ne (if_pos hdue) (List.cons_ne_nil _ _)) _

end BandwidthManager

end ElasticFrame
