import ElasticFrame.Bandwidth.Manager

/-!
What a change of the health does to the streams. The loops over the streams
treat each one by itself, and leave alone those with a manual multiplier.

A stream is paused when the health becomes severe. It is resumed by the loop
that handles the recovery, and that loop passes over it when it has been given
a manual multiplier in between.
-/

namespace ElasticFrame

open Lib

theorem nodup_streams : streams.Nodup := by
  apply List.Nodup.map_on _ List.nodup_range
  intro m hm n hn h
  have hmod := congrArg UInt8.toNat h
  rwa [UInt8.toNat_ofNat_of_lt' (List.mem_range.mp hm),
    UInt8.toNat_ofNat_of_lt' (List.mem_range.mp hn)] at hmod

namespace BandwidthManager

variable {F : Type*}

/-! ### The loops, stream by stream -/

/-- What the loops change of a stream. -/
def stream (s : BandwidthManager F) (lI : UInt8) : F × Bool :=
  (s.mCurrentMultipliers lI, s.mStreamDropped lI)

/-- What the loops leave alone, with the rest set to the values of `t`. -/
def sharedWith (t s : BandwidthManager F) : BandwidthManager F :=
  { s with
    mCurrentMultipliers := t.mCurrentMultipliers
    mStreamDropped := t.mStreamDropped
    mStreamsDropped := t.mStreamsDropped }

theorem stream_eq_update {s s' : BandwidthManager F} {lI : UInt8} {m : F × Bool}
    (hmult : s'.mCurrentMultipliers = Function.update s.mCurrentMultipliers lI m.1)
    (hdropped : s'.mStreamDropped = Function.update s.mStreamDropped lI m.2) :
    s'.stream = Function.update s.stream lI m := by
  ext1 lJ
  rw [stream, hmult, hdropped]
  by_cases h : lJ = lI
  · subst h
    simp only [Function.update_self]
  · simp only [Function.update_of_ne h, stream]

theorem setDropped_spec (t s : BandwidthManager F) (lI : UInt8) (dropped : Bool) (P : Prop)
    [Decidable P] :
    sharedWith t (if P then s.setDropped lI dropped else (s, [])).1 = sharedWith t s ∧
      (if P then s.setDropped lI dropped else (s, [])).1.mCurrentMultipliers =
        s.mCurrentMultipliers ∧
      (if P then s.setDropped lI dropped else (s, [])).1.mStreamDropped =
        Function.update s.mStreamDropped lI (if P then dropped else s.mStreamDropped lI) := by
  split_ifs
  · exact ⟨rfl, rfl, rfl⟩
  · exact ⟨rfl, rfl, (Function.update_eq_self ..).symm⟩

/-- The configuration and the manual multipliers are those of `s`, the
streams are as `turn` leaves them, and the health is a new one. -/
structure Turned (turn : UInt8 → F × Bool → F × Bool) (aHealth : NetworkHealth)
    (s s' : BandwidthManager F) : Prop where
  health : s'.mCurrentHealth = aHealth
  configs : s'.mStreamConfigs = s.mStreamConfigs
  manual : s'.mManualMultiplier = s.mManualMultiplier
  stream : ∀ lI, s'.stream lI = turn lI (s.stream lI)

theorem Turned.of_loop {turn : UInt8 → F × Bool → F × Bool} {aHealth : NetworkHealth}
    {s t r : BandwidthManager F} (hshared : sharedWith t r = t)
    (hhealth : t.mCurrentHealth = aHealth) (hconfigs : t.mStreamConfigs = s.mStreamConfigs)
    (hmanual : t.mManualMultiplier = s.mManualMultiplier)
    (hstream : ∀ lI, r.stream lI = turn lI (s.stream lI)) (lNow : ℤ) :
    Turned turn aHealth s (r.resetRecovery lNow) := by
  rw [← hshared] at hhealth hconfigs hmanual
  exact ⟨hhealth, hconfigs, hmanual, hstream⟩

theorem Turned.mStreamDropped {turn : UInt8 → F × Bool → F × Bool} {aHealth : NetworkHealth}
    {s s' : BandwidthManager F} (h : Turned turn aHealth s s') (lI : UInt8) :
    s'.mStreamDropped lI = (turn lI (s.stream lI)).2 :=
  congrArg Prod.snd (h.stream lI)

theorem Turned.mCurrentMultipliers {turn : UInt8 → F × Bool → F × Bool}
    {aHealth : NetworkHealth} {s s' : BandwidthManager F} (h : Turned turn aHealth s s')
    (lI : UInt8) : s'.mCurrentMultipliers lI = (turn lI (s.stream lI)).1 :=
  congrArg Prod.fst (h.stream lI)

variable [LinearOrder F]

theorem setMultiplier_spec (t s : BandwidthManager F) (lI : UInt8) (lNewMult : F) :
    sharedWith t (s.setMultiplier lI lNewMult).1 = sharedWith t s ∧
      (s.setMultiplier lI lNewMult).1.mStreamDropped = s.mStreamDropped ∧
      (s.setMultiplier lI lNewMult).1.mCurrentMultipliers =
        Function.update s.mCurrentMultipliers lI lNewMult := by
  rw [setMultiplier]
  split_ifs with h
  · exact ⟨rfl, rfl, rfl⟩
  · rw [not_not.mp h]
    exact ⟨rfl, rfl, (Function.update_eq_self ..).symm⟩

variable [Field F]

/-- A stream when the health has become worse. -/
def decreased (aNewHealth : NetworkHealth) (s : BandwidthManager F) (lI : UInt8)
    (m : F × Bool) : F × Bool :=
  if s.mManualMultiplier lI < 0 then
    (min m.1 (s.getTargetMultiplier lI aNewHealth),
      m.2 || decide (aNewHealth = .severe) && (s.mStreamConfigs lI).mDropOnSevereCongestion)
  else m

/-- A stream when the health has become better. -/
def increased (cfg : BandwidthManagerConfig F) (aNewHealth : NetworkHealth)
    (s : BandwidthManager F) (lI : UInt8) (m : F × Bool) : F × Bool :=
  if s.mManualMultiplier lI < 0 then
    (clamp (min (m.1 + cfg.mAdditiveIncrease) (s.getTargetMultiplier lI aNewHealth))
        (s.mStreamConfigs lI).mMinMultiplier (s.mStreamConfigs lI).mMaxMultiplier,
      m.2 && decide (aNewHealth = .severe))
  else m

theorem decreaseStream_spec (aNewHealth : NetworkHealth) (t s : BandwidthManager F)
    (lI : UInt8) :
    (decreaseStream aNewHealth s lI).1.stream =
        Function.update s.stream lI (decreased aNewHealth (sharedWith t s) lI (s.stream lI)) ∧
      sharedWith t (decreaseStream aNewHealth s lI).1 = sharedWith t s := by
  have hmanual : (sharedWith t s).mManualMultiplier lI = s.mManualMultiplier lI := rfl
  rw [decreaseStream, decreased, hmanual]
  by_cases hset : s.mManualMultiplier lI < 0
  · rw [if_pos hset, if_pos hset]
    dsimp only
    have hlowered : ∃ lowered : BandwidthManager F × List (BandwidthEvent F),
        (if s.getTargetMultiplier lI aNewHealth < s.mCurrentMultipliers lI then
          s.setMultiplier lI (s.getTargetMultiplier lI aNewHealth) else (s, [])) = lowered ∧
        sharedWith t lowered.1 = sharedWith t s ∧ lowered.1.mStreamDropped = s.mStreamDropped ∧
        lowered.1.mCurrentMultipliers = Function.update s.mCurrentMultipliers lI
          (min (s.mCurrentMultipliers lI) (s.getTargetMultiplier lI aNewHealth)) := by
      refine ⟨_, rfl, ?_⟩
      split_ifs with hlt
      · rw [min_eq_right hlt.le]
        exact setMultiplier_spec t s lI _
      · rw [min_eq_left (not_lt.mp hlt), Function.update_eq_self]
        exact ⟨rfl, rfl, rfl⟩
    obtain ⟨lowered, heq, hshared, hdropped, hmult⟩ := hlowered
    rw [heq]
    obtain ⟨hshared', hmult', hdropped'⟩ := setDropped_spec t lowered.1 lI true
      (aNewHealth = .severe ∧ (s.mStreamConfigs lI).mDropOnSevereCongestion = true ∧
        ¬ s.mStreamDropped lI = true)
    refine ⟨stream_eq_update (hmult'.trans hmult) (hdropped'.trans ?_), hshared'.trans hshared⟩
    rw [hdropped]
    congr 1
    simp only [stream, sharedWith]
    cases s.mStreamDropped lI <;> simp
  · rw [if_neg hset, if_neg hset, Function.update_eq_self]
    exact ⟨rfl, rfl⟩

theorem increaseStream_spec (cfg : BandwidthManagerConfig F) (aNewHealth : NetworkHealth)
    (t s : BandwidthManager F) (lI : UInt8) :
    (increaseStream cfg aNewHealth s lI).1.stream =
        Function.update s.stream lI
          (increased cfg aNewHealth (sharedWith t s) lI (s.stream lI)) ∧
      sharedWith t (increaseStream cfg aNewHealth s lI).1 = sharedWith t s := by
  have hmanual : (sharedWith t s).mManualMultiplier lI = s.mManualMultiplier lI := rfl
  rw [increaseStream, increased, hmanual]
  by_cases hset : s.mManualMultiplier lI < 0
  · rw [if_pos hset, if_pos hset]
    dsimp only
    obtain ⟨hshared, hdropped, hmult⟩ := setMultiplier_spec t s lI
      (clamp (min (s.mCurrentMultipliers lI + cfg.mAdditiveIncrease)
          (s.getTargetMultiplier lI aNewHealth))
        (s.mStreamConfigs lI).mMinMultiplier (s.mStreamConfigs lI).mMaxMultiplier)
    generalize s.setMultiplier lI _ = raised at hshared hdropped hmult ⊢
    obtain ⟨hshared', hmult', hdropped'⟩ := setDropped_spec t raised.1 lI false
      (s.mStreamDropped lI = true ∧ aNewHealth ≠ .severe)
    refine ⟨stream_eq_update (hmult'.trans hmult) (hdropped'.trans ?_), hshared'.trans hshared⟩
    rw [hdropped]
    congr 1
    simp only [stream]
    cases s.mStreamDropped lI <;> simp
  · rw [if_neg hset, if_neg hset, Function.update_eq_self]
    exact ⟨rfl, rfl⟩

theorem decreaseLoop_spec (aNewHealth : NetworkHealth) (s : BandwidthManager F) :
    sharedWith s ((decreaseMachine aNewHealth).run s streams).1 = s ∧
      ∀ lI, ((decreaseMachine aNewHealth).run s streams).1.stream lI =
        decreased aNewHealth s lI (s.stream lI) := by
  obtain ⟨hshared, hstream⟩ := (decreaseMachine aNewHealth).run_places stream (sharedWith s)
    (decreased aNewHealth) (fun s' lI => (decreaseStream_spec aNewHealth s s' lI).1)
    (fun s' lI => (decreaseStream_spec aNewHealth s s' lI).2) nodup_streams s
  refine ⟨hshared, fun lI => ?_⟩
  rw [hstream, if_pos (mem_streams lI)]
  rfl

theorem increaseLoop_spec (cfg : BandwidthManagerConfig F) (aNewHealth : NetworkHealth)
    (s : BandwidthManager F) :
    sharedWith s ((increaseMachine cfg aNewHealth).run s streams).1 = s ∧
      ∀ lI, ((increaseMachine cfg aNewHealth).run s streams).1.stream lI =
        increased cfg aNewHealth s lI (s.stream lI) := by
  obtain ⟨hshared, hstream⟩ := (increaseMachine cfg aNewHealth).run_places stream (sharedWith s)
    (increased cfg aNewHealth) (fun s' lI => (increaseStream_spec cfg aNewHealth s s' lI).1)
    (fun s' lI => (increaseStream_spec cfg aNewHealth s s' lI).2) nodup_streams s
  refine ⟨hshared, fun lI => ?_⟩
  rw [hstream, if_pos (mem_streams lI)]
  rfl

/-! ### Changes of the health -/

theorem handleHealthChange_of_gt (cfg : BandwidthManagerConfig F) {s : BandwidthManager F}
    {aNewHealth : NetworkHealth} (h : aNewHealth > s.mCurrentHealth) (lNow : ℤ) :
    Turned (decreased aNewHealth s) aNewHealth s
      (s.handleHealthChange cfg aNewHealth lNow).1 := by
  obtain ⟨hshared, hstream⟩ := decreaseLoop_spec aNewHealth
    { s with
      mCurrentHealth := aNewHealth
      mBandwidthReductions := s.mBandwidthReductions + 1 }
  simp only [handleHealthChange, if_pos h]
  refine Turned.of_loop hshared ?_ ?_ ?_ ?_ lNow
  exacts [rfl, rfl, rfl, hstream]

theorem handleHealthChange_of_lt (cfg : BandwidthManagerConfig F) {s : BandwidthManager F}
    {aNewHealth : NetworkHealth} (h : aNewHealth < s.mCurrentHealth) (lNow : ℤ) :
    Turned (increased cfg aNewHealth s) aNewHealth s
      (s.handleHealthChange cfg aNewHealth lNow).1 := by
  obtain ⟨hshared, hstream⟩ := increaseLoop_spec cfg aNewHealth
    { s with
      mCurrentHealth := aNewHealth
      mBandwidthIncreases := s.mBandwidthIncreases + 1 }
  simp only [handleHealthChange, if_neg h.not_gt, if_pos h]
  refine Turned.of_loop hshared ?_ ?_ ?_ ?_ lNow
  exacts [rfl, rfl, rfl, hstream]

theorem tryBandwidthIncrease_of_some (cfg : BandwidthManagerConfig F) {s : BandwidthManager F}
    {aHealth : NetworkHealth} (h : improved s.mCurrentHealth = some aHealth) (lNow : ℤ) :
    Turned (increased cfg aHealth s) aHealth s (s.tryBandwidthIncrease cfg lNow).1 := by
  obtain ⟨hshared, hstream⟩ := increaseLoop_spec cfg aHealth
    { s with
      mCurrentHealth := aHealth
      mBandwidthIncreases := s.mBandwidthIncreases + 1 }
  simp only [tryBandwidthIncrease, h]
  refine Turned.of_loop hshared ?_ ?_ ?_ ?_ lNow
  exacts [rfl, rfl, rfl, hstream]

theorem improved_lt {aHealth better : NetworkHealth} (h : improved aHealth = some better) :
    better < aHealth := by
  cases aHealth <;> cases h <;> decide

/-- How the health changes: not at all, for the worse, or for the better. -/
inductive Moves (cfg : BandwidthManagerConfig F) (s s' : BandwidthManager F) : Prop
  | stay (h : s' = s)
  | decrease (aHealth : NetworkHealth) (h : aHealth > s.mCurrentHealth)
      (hturned : Turned (decreased aHealth s) aHealth s s')
  | increase (aHealth : NetworkHealth) (h : aHealth < s.mCurrentHealth)
      (hturned : Turned (increased cfg aHealth s) aHealth s s')

theorem evaluated_moves (cfg : BandwidthManagerConfig F) (s : BandwidthManager F) (lNow : ℤ) :
    Moves cfg s (s.evaluated cfg lNow).1 ∧
      (s.evaluated cfg lNow).1.mCurrentHealth = s.evaluateHealth cfg := by
  rw [evaluated]
  rcases lt_trichotomy (s.evaluateHealth cfg) s.mCurrentHealth with h | h | h
  · rw [if_pos h.ne]
    have hturned := handleHealthChange_of_lt cfg h lNow
    exact ⟨.increase _ h hturned, hturned.health⟩
  · rw [if_neg (not_not.mpr h)]
    exact ⟨.stay rfl, h.symm⟩
  · rw [if_pos h.ne']
    have hturned := handleHealthChange_of_gt cfg h lNow
    exact ⟨.decrease _ h hturned, hturned.health⟩

theorem evaluated_of_eq {cfg : BandwidthManagerConfig F} {s : BandwidthManager F}
    (h : s.evaluateHealth cfg = s.mCurrentHealth) (lNow : ℤ) : (s.evaluated cfg lNow).1 = s := by
  rw [evaluated, if_neg (not_not.mpr h)]

def probed (cfg : BandwidthManagerConfig F) (s : BandwidthManager F) (clk : UpdateClock) :
    BandwidthManager F :=
  (if s.mCurrentHealth ≠ .healthy then s.processProbing cfg clk.lNow clk.improved
    else (s, [])).1

theorem probed_of_due {cfg : BandwidthManagerConfig F} {s : BandwidthManager F}
    {better : NetworkHealth} (hbetter : improved s.mCurrentHealth = some better)
    {clk : UpdateClock} (h : ProbingDue cfg s clk.lNow) :
    Turned (increased cfg better s) better s (s.probed cfg clk) := by
  have hhealthy : s.mCurrentHealth ≠ .healthy := by
    intro hhealthy
    rw [hhealthy] at hbetter
    cases hbetter
  rw [probed, if_pos hhealthy, processProbing, if_pos h]
  exact tryBandwidthIncrease_of_some cfg hbetter clk.improved

theorem probed_of_not_due {cfg : BandwidthManagerConfig F} {s : BandwidthManager F}
    {clk : UpdateClock} (h : ¬ ProbingDue cfg s clk.lNow) : s.probed cfg clk = s := by
  rw [probed, processProbing, if_neg h]
  split_ifs <;> rfl

theorem probed_moves (cfg : BandwidthManagerConfig F) (s : BandwidthManager F)
    (clk : UpdateClock) :
    Moves cfg s (s.probed cfg clk) ∧ (s.probed cfg clk).mCurrentHealth ≤ s.mCurrentHealth := by
  by_cases hdue : ProbingDue cfg s clk.lNow
  · cases hbetter : improved s.mCurrentHealth with
    | none =>
        have hstay : s.probed cfg clk = s := by
          rw [probed, processProbing, if_pos hdue, tryBandwidthIncrease, hbetter, ite_self]
        exact ⟨.stay hstay, by rw [hstay]⟩
    | some better =>
        have hturned := probed_of_due hbetter hdue
        have hlt := improved_lt hbetter
        exact ⟨.increase better hlt hturned, by rw [hturned.health]; exact hlt.le⟩
  · rw [probed_of_not_due hdue]
    exact ⟨.stay rfl, le_rfl⟩

theorem update_of_due [FloatOps F] {cfg : BandwidthManagerConfig F} {s : BandwidthManager F}
    {clk : UpdateClock} (h : UpdateDue cfg s clk.lNow) :
    (s.update cfg clk).1 = ((s.measured clk.lNow).evaluated cfg clk.changed).1.probed cfg clk := by
  rw [update, if_pos h]
  rfl

theorem update_of_not_due [FloatOps F] {cfg : BandwidthManagerConfig F}
    {s : BandwidthManager F} {clk : UpdateClock} (h : ¬ UpdateDue cfg s clk.lNow) :
    (s.update cfg clk).1 = s := by
  rw [update, if_neg h]

theorem Moves.stream_of_manual {cfg : BandwidthManagerConfig F} {s s' : BandwidthManager F}
    (h : Moves cfg s s') {lI : UInt8} (hmanual : ¬ s.mManualMultiplier lI < 0) :
    s'.stream lI = s.stream lI := by
  cases h with
  | stay h => rw [h]
  | decrease aHealth _ hturned => rw [hturned.stream, decreased, if_neg hmanual]
  | increase aHealth _ hturned => rw [hturned.stream, increased, if_neg hmanual]

theorem Moves.manual {cfg : BandwidthManagerConfig F} {s s' : BandwidthManager F}
    (h : Moves cfg s s') : s'.mManualMultiplier = s.mManualMultiplier := by
  cases h with
  | stay h => rw [h]
  | decrease _ _ hturned => exact hturned.manual
  | increase _ _ hturned => exact hturned.manual

def chosenMultiplier (s : BandwidthManager F) (aStreamId : UInt8) : F :=
  if s.mManualMultiplier aStreamId ≥ 0 then
    clamp (s.mManualMultiplier aStreamId) (s.mStreamConfigs aStreamId).mMinMultiplier
      (s.mStreamConfigs aStreamId).mMaxMultiplier
  else s.getTargetMultiplier aStreamId s.mCurrentHealth

theorem updateStreamMultiplier_eq (s : BandwidthManager F) (aStreamId : UInt8) :
    s.updateStreamMultiplier aStreamId =
      s.setMultiplier aStreamId (s.chosenMultiplier aStreamId) := by
  rw [updateStreamMultiplier, chosenMultiplier]
  split_ifs <;> rfl

end BandwidthManager

end ElasticFrame
