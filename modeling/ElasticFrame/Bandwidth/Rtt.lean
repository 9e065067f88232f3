import ElasticFrame.Bandwidth.Streams

/-!
The RTT estimate on a steady path. The smoothed RTT starts at zero and moves by
an eighth of its distance to the sample, so the first smoothed value, which
becomes the baseline for good, is an eighth of the RTT. From then on the
smoothed RTT only grows, and the ratio that is to be near one goes to eight.
Nothing but an RTT of 8 us is ever taken for stable.
-/

namespace ElasticFrame

open Lib

/-- The call brings no RTT but this one. -/
def BandwidthCall.Steady {F : Type*} (R : ℤ) : BandwidthCall F → Prop
  | .updateRtt aRttUs => aRttUs = R
  | _ => True

theorem steady_replicate {F : Type*} (n : ℕ) (R : ℤ) :
    ∀ call ∈ List.replicate n (BandwidthCall.updateRtt (F := F) R), call.Steady R := by
  intro call hcall
  rw [List.eq_of_mem_replicate hcall]
  rfl

namespace BandwidthManager

variable {F : Type*}

/-! ### What changes of the health leave alone -/

/-- No metric is touched, except that the stable samples may be forgotten. -/
structure Unmeasured (s s' : BandwidthManager F) : Prop where
  rtt : s'.mSmoothedRttUs = s.mSmoothedRttUs
  baseline : s'.mBaselineRttUs = s.mBaselineRttUs
  jitter : s'.mSmoothedJitterUs = s.mSmoothedJitterUs
  nackRate : s'.mSmoothedNackRate = s.mSmoothedNackRate
  lastUpdate : s'.mLastUpdateUs = s.mLastUpdateUs
  nackCount : s'.mRecentNackCount = s.mRecentNackCount
  stable : s'.mStableRttSamples = s.mStableRttSamples ∨ s'.mStableRttSamples = 0

theorem Unmeasured.refl (s : BandwidthManager F) : Unmeasured s s :=
  ⟨rfl, rfl, rfl, rfl, rfl, rfl, .inl rfl⟩

theorem Unmeasured.trans {s s' s'' : BandwidthManager F} (h : Unmeasured s s')
    (h' : Unmeasured s' s'') : Unmeasured s s'' where
  rtt := h'.rtt.trans h.rtt
  baseline := h'.baseline.trans h.baseline
  jitter := h'.jitter.trans h.jitter
  nackRate := h'.nackRate.trans h.nackRate
  lastUpdate := h'.lastUpdate.trans h.lastUpdate
  nackCount := h'.nackCount.trans h.nackCount
  stable := by
    rcases h'.stable with hsame | hzero
    · rw [hsame]
      exact h.stable
    · exact .inr hzero

theorem Unmeasured.of_loop {s t r : BandwidthManager F} (h : Unmeasured s t)
    (hshared : sharedWith t r = t) (lNow : ℤ) : Unmeasured s (r.resetRecovery lNow) := by
  rw [← hshared] at h
  exact ⟨h.rtt, h.baseline, h.jitter, h.nackRate, h.lastUpdate, h.nackCount, .inr rfl⟩

/-! ### A steady path -/

/-- The smoothed RTT and the baseline are those of another state, and the
stable samples are too, or have been forgotten. -/
structure SamePath (s s' : BandwidthManager F) : Prop where
  rtt : s'.mSmoothedRttUs = s.mSmoothedRttUs
  baseline : s'.mBaselineRttUs = s.mBaselineRttUs
  stable : s'.mStableRttSamples = s.mStableRttSamples ∨ s'.mStableRttSamples = 0

theorem Unmeasured.samePath {s s' : BandwidthManager F} (h : Unmeasured s s') : SamePath s s' :=
  ⟨h.rtt, h.baseline, h.stable⟩

/-- Every sample so far was `R`: there was none that counted yet, or the
baseline is an eighth of `R` and the smoothed RTT is on its way from there
to `R`. -/
structure Follows (R : ℤ) (s : BandwidthManager F) : Prop where
  nonneg : 0 ≤ s.mSmoothedRttUs
  le : s.mSmoothedRttUs ≤ R
  started : s.mBaselineRttUs = 0 ∧ s.mSmoothedRttUs = 0 ∨
    0 < s.mBaselineRttUs ∧ s.mBaselineRttUs = R / 8 ∧ s.mBaselineRttUs ≤ s.mSmoothedRttUs

theorem Follows.samePath {R : ℤ} {s s' : BandwidthManager F} (h : Follows R s)
    (hsame : SamePath s s') : Follows R s' := by
  obtain ⟨hnonneg, hle, hstarted⟩ := h
  rw [← hsame.rtt] at hnonneg hle hstarted
  rw [← hsame.baseline] at hstarted
  exact ⟨hnonneg, hle, hstarted⟩

variable [LinearOrder F]

/-! ### Single calls -/

theorem unmeasured_setMultiplier (s : BandwidthManager F) (aStreamId : UInt8) (lNewMult : F) :
    Unmeasured s (s.setMultiplier aStreamId lNewMult).1 := by
  rw [setMultiplier]
  split_ifs
  · exact ⟨rfl, rfl, rfl, rfl, rfl, rfl, .inl rfl⟩
  · exact .refl s

variable [Field F]

theorem unmeasured_handleHealthChange (cfg : BandwidthManagerConfig F) (s : BandwidthManager F)
    (aNewHealth : NetworkHealth) (lNow : ℤ) :
    Unmeasured s (s.handleHealthChange cfg aNewHealth lNow).1 := by
  by_cases hgt : aNewHealth > s.mCurrentHealth
  · obtain ⟨hshared, -⟩ := decreaseLoop_spec aNewHealth
      { s with
        mCurrentHealth := aNewHealth
        mBandwidthReductions := s.mBandwidthReductions + 1 }
    simp only [handleHealthChange, if_pos hgt]
    refine Unmeasured.of_loop ?_ hshared lNow
    exact ⟨rfl, rfl, rfl, rfl, rfl, rfl, .inl rfl⟩
  · by_cases hlt : aNewHealth < s.mCurrentHealth
    · obtain ⟨hshared, -⟩ := increaseLoop_spec cfg aNewHealth
        { s with
          mCurrentHealth := aNewHealth
          mBandwidthIncreases := s.mBandwidthIncreases + 1 }
      simp only [handleHealthChange, if_neg hgt, if_pos hlt]
      refine Unmeasured.of_loop ?_ hshared lNow
      exact ⟨rfl, rfl, rfl, rfl, rfl, rfl, .inl rfl⟩
    · simp only [handleHealthChange, if_neg hgt, if_neg hlt]
      exact ⟨rfl, rfl, rfl, rfl, rfl, rfl, .inr rfl⟩

theorem unmeasured_tryBandwidthIncrease (cfg : BandwidthManagerConfig F) (s : BandwidthManager F)
    (lNow : ℤ) : Unmeasured s (s.tryBandwidthIncrease cfg lNow).1 := by
  cases hbetter : improved s.mCurrentHealth with
  | none =>
      rw [tryBandwidthIncrease, hbetter]
      exact .refl s
  | some better =>
      obtain ⟨hshared, -⟩ := increaseLoop_spec cfg better
        { s with
          mCurrentHealth := better
          mBandwidthIncreases := s.mBandwidthIncreases + 1 }
      simp only [tryBandwidthIncrease, hbetter]
      refine Unmeasured.of_loop ?_ hshared lNow
      exact ⟨rfl, rfl, rfl, rfl, rfl, rfl, .inl rfl⟩

theorem unmeasured_evaluated (cfg : BandwidthManagerConfig F) (s : BandwidthManager F) (lNow : ℤ) :
    Unmeasured s (s.evaluated cfg lNow).1 := by
  rw [evaluated]
  split_ifs
  · exact unmeasured_handleHealthChange cfg s _ lNow
  · exact .refl s

theorem unmeasured_probed (cfg : BandwidthManagerConfig F) (s : BandwidthManager F)
    (clk : UpdateClock) : Unmeasured s (s.probed cfg clk) := by
  rw [probed, processProbing]
  split_ifs
  · exact unmeasured_tryBandwidthIncrease cfg s clk.improved
  · exact .refl s
  · exact .refl s

variable [FloatOps F]

/-- An update that is due measures the NACKs and touches no other metric. -/
theorem unmeasured_update {cfg : BandwidthManagerConfig F} {s : BandwidthManager F}
    {clk : UpdateClock} (h : UpdateDue cfg s clk.lNow) :
    Unmeasured (s.measured clk.lNow) (s.update cfg clk).1 := by
  rw [update_of_due h]
  exact (unmeasured_evaluated cfg _ clk.changed).trans (unmeasured_probed cfg _ clk)

omit [FloatOps F] in
theorem samePath_updateStreamMultiplier (s : BandwidthManager F) (aStreamId : UInt8) :
    SamePath s (s.updateStreamMultiplier aStreamId).1 := by
  rw [updateStreamMultiplier_eq]
  exact (unmeasured_setMultiplier s aStreamId _).samePath

theorem samePath_step (senderCfg : SenderConfig) (cfg : BandwidthManagerConfig F)
    (s : BandwidthManager F) {call : BandwidthCall F} (hcall : ∀ R, call ≠ .updateRtt R) :
    SamePath s ((machine senderCfg cfg).step s call).1 := by
  cases call with
  | setStreamConfig aStreamId aConfig =>
      have h := samePath_updateStreamMultiplier
        { s with mStreamConfigs := Function.update s.mStreamConfigs aStreamId aConfig } aStreamId
      exact ⟨h.rtt, h.baseline, h.stable⟩
  | setManualMultiplier aStreamId aMultiplier =>
      have h := samePath_updateStreamMultiplier
        { s with
          mManualMultiplier :=
            Function.update s.mManualMultiplier aStreamId (clamp aMultiplier 0 1) } aStreamId
      exact ⟨h.rtt, h.baseline, h.stable⟩
  | clearManualMultiplier aStreamId =>
      have h := samePath_updateStreamMultiplier
        { s with
          mManualMultiplier := Function.update s.mManualMultiplier aStreamId (-1) } aStreamId
      exact ⟨h.rtt, h.baseline, h.stable⟩
  | send clk aData args =>
      simp only [machine, send]
      split_ifs <;> exact ⟨rfl, rfl, .inl rfl⟩
  | receiveNack aData =>
      simp only [machine, receiveNack]
      split_ifs <;> exact ⟨rfl, rfl, .inl rfl⟩
  | processRetransmits aMaxCount => exact ⟨rfl, rfl, .inl rfl⟩
  | updateJitter aJitterUs => exact ⟨rfl, rfl, .inl rfl⟩
  | updateRtt R => exact absurd rfl (hcall R)
  | update clk =>
      show SamePath s (s.update cfg clk).1
      by_cases hdue : UpdateDue cfg s clk.lNow
      · have h := unmeasured_update hdue
        exact ⟨h.rtt, h.baseline, h.stable⟩
      · rw [update_of_not_due hdue]
        exact (Unmeasured.refl s).samePath

section

omit [Field F]

theorem mSmoothedRttUs_updateRtt (s : BandwidthManager F) (R : ℤ) :
    (s.updateRtt R).mSmoothedRttUs = s.mSmoothedRttUs + (R - s.mSmoothedRttUs).tdiv 8 := by
  rw [updateRtt]
  dsimp only
  split_ifs <;> rfl

theorem mBaselineRttUs_updateRtt (s : BandwidthManager F) (R : ℤ) :
    (s.updateRtt R).mBaselineRttUs =
      if s.mBaselineRttUs = 0 then (s.updateRtt R).mSmoothedRttUs else s.mBaselineRttUs := by
  rw [updateRtt]
  dsimp only
  split_ifs <;> rfl

def NearBaseline (s : BandwidthManager F) : Prop :=
  (FloatOps.ratio s.mSmoothedRttUs s.mBaselineRttUs : F) ≥ FloatOps.ratio 8 10 ∧
    (FloatOps.ratio s.mSmoothedRttUs s.mBaselineRttUs : F) ≤ FloatOps.ratio 12 10

/-- The first sample that gives a baseline is not compared with it. -/
theorem mStableRttSamples_updateRtt_of_zero {s : BandwidthManager F} (h : s.mBaselineRttUs = 0)
    (R : ℤ) : (s.updateRtt R).mStableRttSamples = s.mStableRttSamples := by
  rw [updateRtt]
  simp only [h, if_true]

theorem mStableRttSamples_updateRtt {s : BandwidthManager F} (h : s.mBaselineRttUs ≠ 0) (R : ℤ) :
    ((s.updateRtt R).NearBaseline →
        (s.updateRtt R).mStableRttSamples = s.mStableRttSamples + 1) ∧
      (¬ (s.updateRtt R).NearBaseline → (s.updateRtt R).mStableRttSamples = 0) := by
  have hbaseline := mBaselineRttUs_updateRtt s R
  rw [if_neg h] at hbaseline
  rw [NearBaseline, hbaseline, mSmoothedRttUs_updateRtt, updateRtt]
  simp only [if_neg h]
  refine ⟨fun hnear => ?_, fun hfar => ?_⟩
  · rw [if_pos]
    exact hnear
  · rw [if_neg]
    exact hfar

theorem Follows.updateRtt {R : ℤ} {s : BandwidthManager F} (h : Follows R s) (hR : 0 < R) :
    Follows R (s.updateRtt R) := by
  obtain ⟨hnonneg, hle, hstarted⟩ := h
  have hrtt := mSmoothedRttUs_updateRtt s R
  have hbaseline := mBaselineRttUs_updateRtt s R
  rw [Int.tdiv_eq_ediv_of_nonneg (by omega)] at hrtt
  refine ⟨by omega, by omega, ?_⟩
  split_ifs at hbaseline with hzero
  · omega
  · omega

/-! ### What is recognised -/

/-- With an RTT of 8 us the baseline, once there is one, is where the smoothed
RTT stays. -/
def Settled (s : BandwidthManager F) : Prop := s.mSmoothedRttUs = s.mBaselineRttUs

theorem Follows.settled {s : BandwidthManager F} (h : Follows 8 s) (hsettled : s.Settled) :
    (s.updateRtt 8).Settled := by
  have hrtt := mSmoothedRttUs_updateRtt s 8
  have hbaseline := mBaselineRttUs_updateRtt s 8
  have hnonneg := h.nonneg
  have hle := h.le
  rw [Int.tdiv_eq_ediv_of_nonneg (by omega)] at hrtt
  rw [Settled] at hsettled ⊢
  split_ifs at hbaseline with hzero
  · exact hbaseline.symm
  · have hone : s.mBaselineRttUs = 8 / 8 := (h.started.resolve_left fun h => hzero h.1).2.1
    omega

/-- What holds on a steady path: no sample counts, or it is the RTT of 8 us. -/
structure OnPath (R : ℤ) (s : BandwidthManager F) : Prop where
  follows : Follows R s
  settled : R = 8 → s.Settled
  unstable : R ≠ 8 → s.mStableRttSamples = 0

theorem OnPath.started {s : BandwidthManager F} (h : OnPath 8 s) :
    (s.updateRtt 8).mBaselineRttUs ≠ 0 := by
  have hrtt := mSmoothedRttUs_updateRtt s 8
  have hbaseline := mBaselineRttUs_updateRtt s 8
  have hsettled : s.mSmoothedRttUs = s.mBaselineRttUs := h.settled rfl
  split_ifs at hbaseline with hzero
  · rw [hsettled, hzero] at hrtt
    rw [hbaseline, hrtt]
    decide
  · rwa [hbaseline]

end

variable [IsStrictOrderedRing F] [FloatOps.Accurate F]

/-- The ratio is that far from one that no rounding brings it back. -/
theorem not_nearBaseline {s : BandwidthManager F} (hpos : 0 < s.mBaselineRttUs)
    (hfar : 13 * s.mBaselineRttUs ≤ 10 * s.mSmoothedRttUs) : ¬ s.NearBaseline := by
  rintro ⟨-, hnear⟩
  have hratio := (FloatOps.ratio_bounds (F := F) (n := s.mSmoothedRttUs) (by omega) hpos
    (by omega)).1
  have hlimit := (FloatOps.ratio_bounds (F := F) (n := 12) (d := 10) (by norm_num) (by norm_num)
    (by norm_num)).2
  have hposF : (0 : F) < (s.mBaselineRttUs : F) := Int.cast_pos.mpr hpos
  have hquotient : (13 / 10 : F) ≤ (s.mSmoothedRttUs : F) / (s.mBaselineRttUs : F) := by
    have hfarF : (13 : F) * (s.mBaselineRttUs : F) ≤ 10 * (s.mSmoothedRttUs : F) := by
      exact_mod_cast hfar
    rw [le_div_iff₀ hposF]
    linarith
  norm_num at hlimit
  linarith

/-- Any other smoothed RTT has left the baseline behind by the second sample. -/
theorem Follows.far {R : ℤ} {s : BandwidthManager F} (h : Follows R s) (hR : R ≠ 8)
    (hzero : s.mBaselineRttUs ≠ 0) : ¬ (s.updateRtt R).NearBaseline := by
  obtain ⟨hpos, heighth, hbelow⟩ := h.started.resolve_left fun h => hzero h.1
  have hle := h.le
  have hrtt := mSmoothedRttUs_updateRtt s R
  have hbaseline := mBaselineRttUs_updateRtt s R
  rw [Int.tdiv_eq_ediv_of_nonneg (by omega)] at hrtt
  rw [if_neg hzero] at hbaseline
  apply not_nearBaseline
  · omega
  · -- already the second smoothed value is 1.5 baselines, and it does not fall again
    omega

theorem Settled.near {s : BandwidthManager F} (h : s.Settled) (hpos : 0 < s.mBaselineRttUs) :
    s.NearBaseline := by
  obtain ⟨hlow, hhigh⟩ := FloatOps.ratio_bounds (F := F) hpos hpos (by omega)
  have hbelow := (FloatOps.ratio_bounds (F := F) (n := 8) (d := 10) (by norm_num) (by norm_num)
    (by norm_num)).2
  have habove := (FloatOps.ratio_bounds (F := F) (n := 12) (d := 10) (by norm_num) (by norm_num)
    (by norm_num)).1
  have hposF : (0 : F) < (s.mBaselineRttUs : F) := Int.cast_pos.mpr hpos
  rw [div_self hposF.ne'] at hlow hhigh
  norm_num at hbelow habove
  rw [NearBaseline, h]
  constructor <;> linarith

theorem OnPath.updateRtt {R : ℤ} {s : BandwidthManager F} (h : OnPath R s) (hR : 0 < R) :
    OnPath R (s.updateRtt R) where
  follows := h.follows.updateRtt hR
  settled := by
    rintro rfl
    exact h.follows.settled (h.settled rfl)
  unstable hne := by
    by_cases hzero : s.mBaselineRttUs = 0
    · rw [mStableRttSamples_updateRtt_of_zero hzero]
      exact h.unstable hne
    · exact (mStableRttSamples_updateRtt hzero R).2 (h.follows.far hne hzero)

theorem OnPath.step {senderCfg : SenderConfig} {cfg : BandwidthManagerConfig F} {R : ℤ}
    {s : BandwidthManager F} (h : OnPath R s) (hR : 0 < R) {call : BandwidthCall F}
    (hsteady : call.Steady R) : OnPath R ((machine senderCfg cfg).step s call).1 := by
  by_cases hcall : ∃ aRttUs, call = .updateRtt aRttUs
  · obtain ⟨aRttUs, rfl⟩ := hcall
    obtain rfl : aRttUs = R := hsteady
    exact h.updateRtt hR
  · have hsame := samePath_step senderCfg cfg s fun aRttUs heq => hcall ⟨aRttUs, heq⟩
    refine ⟨h.follows.samePath hsame, fun hR8 => ?_, fun hne => ?_⟩
    · rw [Settled, hsame.rtt, hsame.baseline]
      exact h.settled hR8
    · rcases hsame.stable with hkept | hzero
      · exact hkept.trans (h.unstable hne)
      · exact hzero

theorem onPath_run (senderCfg : SenderConfig) (cfg : BandwidthManagerConfig F) {R : ℤ}
    (hR : 0 < R) {calls : List (BandwidthCall F)} (hsteady : ∀ call ∈ calls, call.Steady R) :
    OnPath R ((machine senderCfg cfg).run (new senderCfg) calls).1 := by
  have hnew : OnPath R (new (F := F) senderCfg) :=
    ⟨⟨le_rfl, hR.le, .inl ⟨rfl, rfl⟩⟩, fun _ => rfl, fun _ => rfl⟩
  have hcalls : (machine senderCfg cfg).Along (fun _ call => call.Steady R) (new senderCfg) calls :=
    ((machine senderCfg cfg).along_iff_forall (D := fun call => call.Steady R)
      (fun _ _ => Iff.rfl) _ _).mpr hsteady
  exact (machine senderCfg cfg).run_invariant (fun _ _ hs hcall => hs.step hR hcall) hnew hcalls

theorem stable_replicate (senderCfg : SenderConfig) (cfg : BandwidthManagerConfig F) (n : ℕ)
    {s : BandwidthManager F} (h : OnPath 8 s) (hzero : s.mBaselineRttUs ≠ 0) :
    ((machine senderCfg cfg).run s (List.replicate n (.updateRtt 8))).1.mStableRttSamples =
      s.mStableRttSamples + UInt32.ofNat n := by
  induction n generalizing s with
  | zero => exact (UInt32.add_zero _).symm
  | succ n ih =>
      have hnext := h.updateRtt (by norm_num)
      have hbaseline := mBaselineRttUs_updateRtt s 8
      rw [if_neg hzero] at hbaseline
      rw [← hbaseline] at hzero
      have hpos := (hnext.follows.started.resolve_left fun h => hzero h.1).1
      have hstable := (mStableRttSamples_updateRtt (hbaseline ▸ hzero) 8).1
        ((hnext.settled rfl).near hpos)
      rw [List.replicate_succ, Machine.run_cons]
      show ((machine senderCfg cfg).run (s.updateRtt 8) _).1.mStableRttSamples = _
      rw [ih hnext hzero, hstable, UInt32.ofNat_add, UInt32.add_assoc,
        UInt32.add_comm (UInt32.ofNat n)]
      rfl

/-- After any calls on a steady path, further samples take the number of stable
ones to what is required just when the RTT is 8 us, or nothing is required; and
so for the samples that the probing requires. -/
theorem recognised_iff (senderCfg : SenderConfig) (cfg : BandwidthManagerConfig F) (R : ℤ)
    (hR : 0 < R) (calls : List (BandwidthCall F)) (hsteady : ∀ call ∈ calls, call.Steady R) :
    let after (n : ℕ) := ((machine senderCfg cfg).run (new senderCfg)
      (calls ++ List.replicate n (.updateRtt R))).1
    (∀ k : UInt32, (∃ n, k ≤ (after n).mStableRttSamples) ↔ R = 8 ∨ k = 0) ∧
      (cfg.mProbeIntervalMs ≠ 0 → ((∃ n aNow, ProbingDue cfg (after n) aNow) ↔
        R = 8 ∨ cfg.mRecoveryWindowMs / cfg.mProbeIntervalMs = 0)) := by
  intro after
  have hcount : ∀ k : UInt32, (∃ n, k ≤ (after n).mStableRttSamples) ↔ R = 8 ∨ k = 0 := by
    intro k
    constructor
    · rintro ⟨n, hn⟩
      by_contra hnot
      obtain ⟨hne, hk⟩ := not_or.mp hnot
      have hsteady' : ∀ call ∈ calls ++ List.replicate n (.updateRtt R),
          BandwidthCall.Steady R call :=
        List.forall_mem_append.mpr ⟨hsteady, steady_replicate n R⟩
      have hzero := (onPath_run senderCfg cfg hR hsteady').unstable hne
      rw [hzero] at hn
      exact hk (UInt32.le_zero_iff.mp hn)
    · rintro (rfl | rfl)
      · have hpath := onPath_run senderCfg cfg hR hsteady
        have hnext := hpath.updateRtt hR
        have hstarted := hpath.started
        set s := ((machine senderCfg cfg).run (new senderCfg) calls).1.updateRtt 8 with hs
        -- one sample for the baseline, then every one counts, modulo `2 ^ 32`
        refine ⟨(k - s.mStableRttSamples).toNat + 1, ?_⟩
        have hrun : after ((k - s.mStableRttSamples).toNat + 1) =
            ((machine senderCfg cfg).run s
              (List.replicate (k - s.mStableRttSamples).toNat (.updateRtt 8))).1 := by
          simp only [after, Machine.run_append, List.replicate_succ, Machine.run_cons]
          rfl
        rw [hrun, stable_replicate senderCfg cfg _ hnext hstarted, UInt32.ofNat_toNat,
          UInt32.add_comm, UInt32.sub_add_cancel]
        exact UInt32.le_refl k
      · exact ⟨0, UInt32.zero_le⟩
  refine ⟨hcount, fun _ => ?_⟩
  rw [← hcount]
  constructor
  · rintro ⟨n, aNow, -, hn⟩
    exact ⟨n, hn⟩
  · rintro ⟨n, hn⟩
    refine ⟨n, (after n).mRecoveryStartUs + (cfg.mRecoveryWindowMs.toNat : ℤ) * 1000, ?_, hn⟩
    omega

/-- The ten samples that the default configuration requires, with the exact
ratio. -/
theorem recognised_eight :
    letI := FloatOps.exact ℚ
    ∃ n, (10 : UInt32) ≤ ((machine (SenderConfig.new 1456 .single 1000 1000)
      (BandwidthManagerConfig.default (F := ℚ))).run (new (SenderConfig.new 1456 .single 1000 1000))
        ([.updateJitter 70000] ++ List.replicate n (.updateRtt 8))).1.mStableRttSamples :=
  letI := FloatOps.exact ℚ
  ((recognised_iff (SenderConfig.new 1456 .single 1000 1000) BandwidthManagerConfig.default 8
    (by norm_num) [.updateJitter 70000] (by simp [BandwidthCall.Steady])).1 10).mpr (.inl rfl)

/-- A steady path of 80 ms has no stable sample, for ever. -/
theorem not_recognised_eightyMs :
    letI := FloatOps.exact ℚ
    ¬ ∃ n, (10 : UInt32) ≤ ((machine (SenderConfig.new 1456 .single 1000 1000)
      (BandwidthManagerConfig.default (F := ℚ))).run (new (SenderConfig.new 1456 .single 1000 1000))
        (List.replicate n (.updateRtt 80000))).1.mStableRttSamples := by
  let := FloatOps.exact ℚ
  rintro ⟨n, hn⟩
  have hpath := onPath_run (F := ℚ) (SenderConfig.new 1456 .single 1000 1000)
    BandwidthManagerConfig.default (by norm_num) (steady_replicate n 80000)
  rw [hpath.unstable (by norm_num)] at hn
  exact absurd hn (by decide)

end BandwidthManager

end ElasticFrame
