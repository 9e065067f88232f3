import ElasticFrame.Bandwidth.Paused

/-!
Where the multipliers are. Each is within the range of its stream's
configuration, and unless it is set by hand it is at most what the health
allows. The second makes the loops move the multipliers the way their names
say: what is raised was below the old limit, and the new limit is above it.
-/

namespace ElasticFrame

open Lib

def BandwidthCall.Valid {F : Type*} [LE F] : BandwidthCall F → Prop
  | .setStreamConfig _ aConfig => aConfig.mMinMultiplier ≤ aConfig.mMaxMultiplier
  | _ => True

instance {F : Type*} [LE F] [DecidableLE F] : (call : BandwidthCall F) → Decidable call.Valid
  | .setStreamConfig _ _ => inferInstanceAs (Decidable (_ ≤ _))
  | .setManualMultiplier _ _ | .clearManualMultiplier _ | .send _ _ _ | .receiveNack _
  | .processRetransmits _ | .updateJitter _ | .updateRtt _ | .update _ => isTrue trivial

namespace BandwidthManager

variable {F : Type*} [LinearOrder F]

/-- The multipliers go down when the health gets worse, and up when it gets
better. -/
structure Directed (s s' : BandwidthManager F) : Prop where
  worse : s.mCurrentHealth < s'.mCurrentHealth →
    ∀ lI, s'.mCurrentMultipliers lI ≤ s.mCurrentMultipliers lI
  better : s'.mCurrentHealth < s.mCurrentHealth →
    ∀ lI, s.mCurrentMultipliers lI ≤ s'.mCurrentMultipliers lI

theorem clamp_eq (v : F) {lo hi : F} (h : lo ≤ hi) : clamp v lo hi = max lo (min v hi) := by
  rw [clamp]
  split_ifs with hlo hhi
  · exact (max_eq_left ((min_le_left v hi).trans hlo.le)).symm
  · rw [min_eq_right hhi.le, max_eq_right h]
  · rw [min_eq_left (not_lt.mp hhi), max_eq_right (not_lt.mp hlo)]

theorem clamp_mem (v : F) {lo hi : F} (h : lo ≤ hi) :
    lo ≤ clamp v lo hi ∧ clamp v lo hi ≤ hi := by
  rw [clamp_eq v h]
  exact ⟨le_max_left _ _, max_le h (min_le_right _ _)⟩

theorem clamp_of_mem {v lo hi : F} (hlo : lo ≤ v) (hhi : v ≤ hi) : clamp v lo hi = v := by
  rw [clamp, if_neg hlo.not_gt, if_neg hhi.not_gt]

theorem clamp_mono {v w lo hi : F} (hrange : lo ≤ hi) (h : v ≤ w) :
    clamp v lo hi ≤ clamp w lo hi := by
  rw [clamp_eq v hrange, clamp_eq w hrange]
  exact max_le_max_left lo (min_le_min_right hi h)

variable [Field F]

/-- Every configuration is a range, every multiplier is in the range of its
stream, and at most its target unless it is set by hand. -/
structure InRange (s : BandwidthManager F) : Prop where
  config : ∀ lI, (s.mStreamConfigs lI).mMinMultiplier ≤ (s.mStreamConfigs lI).mMaxMultiplier
  min_le : ∀ lI, (s.mStreamConfigs lI).mMinMultiplier ≤ s.mCurrentMultipliers lI
  le_max : ∀ lI, s.mCurrentMultipliers lI ≤ (s.mStreamConfigs lI).mMaxMultiplier
  le_target : ∀ lI, s.mManualMultiplier lI < 0 →
    s.mCurrentMultipliers lI ≤ s.getTargetMultiplier lI s.mCurrentHealth

theorem getTargetMultiplier_mem {s : BandwidthManager F} {lI : UInt8}
    (hconfig : (s.mStreamConfigs lI).mMinMultiplier ≤ (s.mStreamConfigs lI).mMaxMultiplier)
    (aHealth : NetworkHealth) :
    (s.mStreamConfigs lI).mMinMultiplier ≤ s.getTargetMultiplier lI aHealth ∧
      s.getTargetMultiplier lI aHealth ≤ (s.mStreamConfigs lI).mMaxMultiplier := by
  exact clamp_mem _ hconfig

theorem getTargetMultiplier_congr {s s' : BandwidthManager F}
    (h : s'.mStreamConfigs = s.mStreamConfigs) (lI : UInt8) (aHealth : NetworkHealth) :
    s'.getTargetMultiplier lI aHealth = s.getTargetMultiplier lI aHealth := by
  simp only [getTargetMultiplier, h]

/-- A stream is given the multiplier that its configuration asks for. -/
theorem chosenMultiplier_mem {s : BandwidthManager F} {lI : UInt8}
    (hconfig : (s.mStreamConfigs lI).mMinMultiplier ≤ (s.mStreamConfigs lI).mMaxMultiplier) :
    (s.mStreamConfigs lI).mMinMultiplier ≤ s.chosenMultiplier lI ∧
      s.chosenMultiplier lI ≤ (s.mStreamConfigs lI).mMaxMultiplier := by
  rw [chosenMultiplier]
  split_ifs
  · exact clamp_mem _ hconfig
  · exact getTargetMultiplier_mem hconfig _

/-- One stream is configured anew, and its multiplier chosen again. -/
theorem InRange.updateStreamMultiplier {s t : BandwidthManager F} (hs : s.InRange) {lI : UInt8}
    (hconfig : (t.mStreamConfigs lI).mMinMultiplier ≤ (t.mStreamConfigs lI).mMaxMultiplier)
    (hhealth : t.mCurrentHealth = s.mCurrentHealth)
    (hmult : t.mCurrentMultipliers = s.mCurrentMultipliers)
    (hother : ∀ lJ, lJ ≠ lI → t.mStreamConfigs lJ = s.mStreamConfigs lJ ∧
      t.mManualMultiplier lJ = s.mManualMultiplier lJ) :
    (t.updateStreamMultiplier lI).1.InRange := by
  rw [updateStreamMultiplier_eq]
  obtain ⟨hshared, -, hnew⟩ := setMultiplier_spec t t lI (t.chosenMultiplier lI)
  generalize (t.setMultiplier lI (t.chosenMultiplier lI)).1 = u at hshared hnew ⊢
  have hconfigs : u.mStreamConfigs = t.mStreamConfigs :=
    (congrArg mStreamConfigs hshared : (sharedWith t u).mStreamConfigs = _)
  have hmanual : u.mManualMultiplier = t.mManualMultiplier :=
    (congrArg mManualMultiplier hshared : (sharedWith t u).mManualMultiplier = _)
  have hcurrent : u.mCurrentHealth = t.mCurrentHealth :=
    (congrArg mCurrentHealth hshared : (sharedWith t u).mCurrentHealth = _)
  have htarget : ∀ lJ, lJ ≠ lI → ∀ aHealth,
      t.getTargetMultiplier lJ aHealth = s.getTargetMultiplier lJ aHealth := by
    intro lJ hne aHealth
    simp only [getTargetMultiplier, (hother lJ hne).1]
  obtain ⟨hmin, hmax⟩ := chosenMultiplier_mem hconfig
  have hself : u.mCurrentMultipliers lI = t.chosenMultiplier lI := by
    rw [hnew, Function.update_self]
  have hkept : ∀ lJ, lJ ≠ lI → u.mCurrentMultipliers lJ = s.mCurrentMultipliers lJ := by
    intro lJ hne
    rw [hnew, Function.update_of_ne hne, hmult]
  refine ⟨fun lJ => ?_, fun lJ => ?_, fun lJ => ?_, fun lJ hauto => ?_⟩
  · rw [hconfigs]
    rcases eq_or_ne lJ lI with rfl | hne
    · exact hconfig
    · rw [(hother lJ hne).1]
      exact hs.config lJ
  · rw [hconfigs]
    rcases eq_or_ne lJ lI with rfl | hne
    · rw [hself]
      exact hmin
    · rw [hkept lJ hne, (hother lJ hne).1]
      exact hs.min_le lJ
  · rw [hconfigs]
    rcases eq_or_ne lJ lI with rfl | hne
    · rw [hself]
      exact hmax
    · rw [hkept lJ hne, (hother lJ hne).1]
      exact hs.le_max lJ
  · rw [getTargetMultiplier_congr hconfigs, hcurrent]
    rw [hmanual] at hauto
    rcases eq_or_ne lJ lI with rfl | hne
    · rw [hself, chosenMultiplier, if_neg (not_le.mpr hauto)]
    · rw [hkept lJ hne, htarget lJ hne, hhealth]
      exact hs.le_target lJ ((hother lJ hne).2 ▸ hauto)

/-- A turn of the loops that leaves each stream with what there is room for,
up to the target of the new health. -/
theorem InRange.turned {turn : UInt8 → F × Bool → F × Bool} {aHealth : NetworkHealth}
    {s s' : BandwidthManager F} (hs : s.InRange) (h : Turned turn aHealth s s') {room : UInt8 → F}
    (hroom : ∀ lI, (s.mStreamConfigs lI).mMinMultiplier ≤ room lI)
    (hmult : ∀ lI, s'.mCurrentMultipliers lI =
      if s.mManualMultiplier lI < 0 then min (room lI) (s.getTargetMultiplier lI aHealth)
      else s.mCurrentMultipliers lI) : s'.InRange := by
  refine ⟨fun lI => ?_, fun lI => ?_, fun lI => ?_, fun lI hauto => ?_⟩
  · rw [h.configs]
    exact hs.config lI
  · rw [h.configs, hmult]
    split_ifs
    · exact le_min (hroom lI) (getTargetMultiplier_mem (hs.config lI) aHealth).1
    · exact hs.min_le lI
  · rw [h.configs, hmult]
    split_ifs
    · exact (min_le_right _ _).trans (getTargetMultiplier_mem (hs.config lI) aHealth).2
    · exact hs.le_max lI
  · rw [h.manual] at hauto
    rw [getTargetMultiplier_congr h.configs, h.health, hmult, if_pos hauto]
    exact min_le_right _ _

variable [IsStrictOrderedRing F]

theorem getTargetMultiplier_anti {s : BandwidthManager F} {lI : UInt8}
    (hconfig : (s.mStreamConfigs lI).mMinMultiplier ≤ (s.mStreamConfigs lI).mMaxMultiplier)
    {aHealth aWorse : NetworkHealth} (h : aHealth ≤ aWorse) :
    s.getTargetMultiplier lI aWorse ≤ s.getTargetMultiplier lI aHealth := by
  cases aWorse with
  | severe =>
      have hsevere : s.getTargetMultiplier lI .severe = (s.mStreamConfigs lI).mMinMultiplier :=
        clamp_of_mem le_rfl hconfig
      rw [hsevere]
      exact (getTargetMultiplier_mem hconfig aHealth).1
  | healthy | degraded | congested =>
      cases aHealth with
      | healthy | degraded | congested =>
          first
          | exact absurd h (by decide)
          | exact clamp_mono hconfig (by norm_num)
      | severe => exact absurd h (by decide)

/-- A change of the health keeps the ranges, and moves the multipliers in its
direction. -/
theorem InRange.moves {cfg : BandwidthManagerConfig F} (hincrease : 0 ≤ cfg.mAdditiveIncrease)
    {s s' : BandwidthManager F} (hs : s.InRange) (h : Moves cfg s s') :
    s'.InRange ∧ Directed s s' := by
  cases h with
  | stay h =>
      rw [h]
      exact ⟨hs, fun h => absurd h (lt_irrefl _), fun h => absurd h (lt_irrefl _)⟩
  | decrease aHealth hworse hturned =>
      have hmult : ∀ lI, s'.mCurrentMultipliers lI =
          if s.mManualMultiplier lI < 0 then
            min (s.mCurrentMultipliers lI) (s.getTargetMultiplier lI aHealth)
          else s.mCurrentMultipliers lI := by
        intro lI
        rw [hturned.mCurrentMultipliers, decreased]
        split_ifs <;> rfl
      refine ⟨hs.turned hturned hs.min_le hmult, fun _ lI => ?_, fun hbetter => ?_⟩
      · rw [hmult]
        split_ifs
        · exact min_le_left _ _
        · exact le_rfl
      · rw [hturned.health] at hbetter
        exact absurd hbetter hworse.not_gt
  | increase aHealth hbetter hturned =>
      have hraised : ∀ lI, s.mCurrentMultipliers lI ≤
          s.mCurrentMultipliers lI + cfg.mAdditiveIncrease :=
        fun lI => le_add_of_nonneg_right hincrease
      have hroom : ∀ lI, (s.mStreamConfigs lI).mMinMultiplier ≤
          s.mCurrentMultipliers lI + cfg.mAdditiveIncrease :=
        fun lI => (hs.min_le lI).trans (hraised lI)
      have hmult : ∀ lI, s'.mCurrentMultipliers lI =
          if s.mManualMultiplier lI < 0 then
            min (s.mCurrentMultipliers lI + cfg.mAdditiveIncrease)
              (s.getTargetMultiplier lI aHealth)
          else s.mCurrentMultipliers lI := by
        intro lI
        obtain ⟨hmin, hmax⟩ := getTargetMultiplier_mem (hs.config lI) aHealth
        rw [hturned.mCurrentMultipliers, increased]
        split_ifs
        · -- both bounds of the minimum are in the range already
          apply clamp_of_mem
          · exact le_min (hroom lI) hmin
          · exact (min_le_right _ _).trans hmax
        · rfl
      refine ⟨hs.turned hturned hroom hmult, fun hworse => ?_, fun _ lI => ?_⟩
      · rw [hturned.health] at hworse
        exact absurd hworse hbetter.not_gt
      · rw [hmult]
        split_ifs with hauto
        · apply le_min (hraised lI)
          exact (hs.le_target lI hauto).trans
            (getTargetMultiplier_anti (hs.config lI) hbetter.le)
        · exact le_rfl

/-! ### Whole runs -/

theorem inRange_new (senderCfg : SenderConfig) :
    (new senderCfg : BandwidthManager F).InRange where
  config _ := zero_le_one
  min_le _ := zero_le_one
  le_max _ := le_rfl
  le_target _ _ := (clamp_of_mem zero_le_one le_rfl).ge

variable [FloatOps F]

theorem InRange.update {cfg : BandwidthManagerConfig F} (hincrease : 0 ≤ cfg.mAdditiveIncrease)
    {s : BandwidthManager F} (hs : s.InRange) (clk : UpdateClock) :
    (s.update cfg clk).1.InRange := by
  by_cases hdue : UpdateDue cfg s clk.lNow
  · rw [update_of_due hdue]
    have hmeasured : (s.measured clk.lNow).InRange := ⟨hs.config, hs.min_le, hs.le_max, hs.le_target⟩
    have hevaluated := (hmeasured.moves hincrease (evaluated_moves cfg _ clk.changed).1).1
    exact (hevaluated.moves hincrease (probed_moves cfg _ clk).1).1
  · rw [update_of_not_due hdue]
    exact hs

theorem InRange.step (senderCfg : SenderConfig) {cfg : BandwidthManagerConfig F}
    (hincrease : 0 ≤ cfg.mAdditiveIncrease) {s : BandwidthManager F} (hs : s.InRange)
    {call : BandwidthCall F} (hvalid : call.Valid) :
    ((machine senderCfg cfg).step s call).1.InRange := by
  cases call with
  | update clk => exact hs.update hincrease clk
  | setStreamConfig aStreamId aConfig =>
      apply hs.updateStreamMultiplier
      · simp only [Function.update_self]
        exact hvalid
      · rfl
      · rfl
      · exact fun lJ hne => ⟨Function.update_of_ne hne _ _, rfl⟩
  | setManualMultiplier aStreamId aMultiplier =>
      apply hs.updateStreamMultiplier
      · exact hs.config aStreamId
      · rfl
      · rfl
      · exact fun lJ hne => ⟨rfl, Function.update_of_ne hne _ _⟩
  | clearManualMultiplier aStreamId =>
      apply hs.updateStreamMultiplier
      · exact hs.config aStreamId
      · rfl
      · rfl
      · exact fun lJ hne => ⟨rfl, Function.update_of_ne hne _ _⟩
  | send clk aData args =>
      simp only [machine, send]
      split_ifs
      · exact hs
      · exact ⟨hs.config, hs.min_le, hs.le_max, hs.le_target⟩
  | receiveNack aData =>
      simp only [machine, receiveNack]
      split_ifs
      · exact ⟨hs.config, hs.min_le, hs.le_max, hs.le_target⟩
      · exact ⟨hs.config, hs.min_le, hs.le_max, hs.le_target⟩
  | processRetransmits aMaxCount => exact ⟨hs.config, hs.min_le, hs.le_max, hs.le_target⟩
  | updateJitter aJitterUs => exact ⟨hs.config, hs.min_le, hs.le_max, hs.le_target⟩
  | updateRtt aRttUs =>
      simp only [machine, updateRtt]
      split_ifs
      · exact ⟨hs.config, hs.min_le, hs.le_max, hs.le_target⟩
      · exact ⟨hs.config, hs.min_le, hs.le_max, hs.le_target⟩
      · exact ⟨hs.config, hs.min_le, hs.le_max, hs.le_target⟩

/-- The multipliers of a run are in range, and whenever an `update` changes the
health, to what the metrics say or by probing, it moves them in the direction
of the change. -/
theorem inRange_of_run (senderCfg : SenderConfig) {cfg : BandwidthManagerConfig F}
    (hincrease : 0 ≤ cfg.mAdditiveIncrease) {calls : List (BandwidthCall F)}
    (hvalid : ∀ call ∈ calls, call.Valid) :
    ((machine senderCfg cfg).run (new senderCfg) calls).1.InRange ∧
      ∀ clk : UpdateClock,
        let s := ((machine senderCfg cfg).run (new senderCfg) calls).1.measured clk.lNow
        let s' := (s.evaluated cfg clk.changed).1
        Directed s s' ∧ Directed s' (s'.probed cfg clk) := by
  have hrun : ((machine senderCfg cfg).run (new senderCfg) calls).1.InRange := by
    apply (machine senderCfg cfg).run_invariant (fun s call hs h => hs.step senderCfg hincrease h)
      (inRange_new senderCfg)
    exact (machine senderCfg cfg).along_of_forall (fun _ => hvalid) _
  refine ⟨hrun, fun clk => ?_⟩
  have hmeasured : (((machine senderCfg cfg).run (new senderCfg) calls).1.measured
      clk.lNow).InRange := ⟨hrun.config, hrun.min_le, hrun.le_max, hrun.le_target⟩
  obtain ⟨hevaluated, hfirst⟩ := hmeasured.moves hincrease (evaluated_moves cfg _ clk.changed).1
  exact ⟨hfirst, (hevaluated.moves hincrease (probed_moves cfg _ clk).1).2⟩

end BandwidthManager

theorem inRange_of_run_paused :
    ((BandwidthManager.machine Sample.senderCfg BandwidthManagerConfig.default).run
        (BandwidthManager.new Sample.senderCfg) Sample.pausedRun).1.InRange ∧
      ∀ clk : UpdateClock,
        let s := ((BandwidthManager.machine Sample.senderCfg BandwidthManagerConfig.default).run
          (BandwidthManager.new Sample.senderCfg) Sample.pausedRun).1.measured clk.lNow
        let s' := (s.evaluated BandwidthManagerConfig.default clk.changed).1
        BandwidthManager.Directed s s' ∧
          BandwidthManager.Directed s' (s'.probed BandwidthManagerConfig.default clk) :=
  BandwidthManager.inRange_of_run Sample.senderCfg (by decide +kernel) (by decide +kernel)

end ElasticFrame
