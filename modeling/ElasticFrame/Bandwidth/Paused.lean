import ElasticFrame.Bandwidth.Streams
import ElasticFrame.Lib.Binary32

/-!
When a stream is paused. The flag is set when the health becomes severe, and
what `send` is given for a paused stream is dropped without an error, so the
flag should be gone as soon as the health is better. It is, unless a stream
has been given a manual multiplier while it was paused: the loops that resume
the streams leave such a stream alone. All this is said of any rounding of the
NACK rate; the run that shows it is computed in `binary32`.
-/

namespace ElasticFrame

open Lib

namespace BandwidthManager

variable {F : Type*} [Field F] [LinearOrder F] [FloatOps F]

def PausedWhileSevere (s : BandwidthManager F) : Prop :=
  ∀ lI, s.mStreamDropped lI = true → s.mCurrentHealth = .severe

/-- The loops reach every paused stream. -/
def Resumable (s : BandwidthManager F) : Prop :=
  ∀ lI, s.mStreamDropped lI = true → s.mManualMultiplier lI < 0

/-- The health is severe, and an `update` at `lNow` makes it better: the
metrics say that it is, or the RTT has been stable for long enough. -/
def LeavesSevere (cfg : BandwidthManagerConfig F) (s : BandwidthManager F) (lNow : ℤ) : Prop :=
  UpdateDue cfg s lNow ∧ s.mCurrentHealth = .severe ∧
    ((s.measured lNow).evaluateHealth cfg ≠ .severe ∨ ProbingDue cfg (s.measured lNow) lNow)

instance (cfg : BandwidthManagerConfig F) (s : BandwidthManager F) (lNow : ℤ) :
    Decidable (LeavesSevere cfg s lNow) :=
  inferInstanceAs (Decidable (_ ∧ _))

/-- A call that makes a severe health better reaches every paused stream. -/
def ResumesAll (cfg : BandwidthManagerConfig F) (s : BandwidthManager F) :
    BandwidthCall F → Prop
  | .update clk => LeavesSevere cfg s clk.lNow → s.Resumable
  | _ => True

omit [FloatOps F] in
/-- Where every paused stream is within reach, a change of the health keeps it
so. -/
theorem PausedWhileSevere.moves {cfg : BandwidthManagerConfig F} {s s' : BandwidthManager F}
    (hs : s.PausedWhileSevere) (hresumable : s.Resumable) (h : Moves cfg s s') :
    s'.PausedWhileSevere ∧ s'.Resumable := by
  cases h with
  | stay h =>
      rw [h]
      exact ⟨hs, hresumable⟩
  | decrease aHealth hgt hturned =>
      have hpaused : ∀ lI, s'.mStreamDropped lI = true →
          s.mManualMultiplier lI < 0 ∧ aHealth = .severe := by
        intro lI hdropped
        rw [hturned.mStreamDropped, decreased] at hdropped
        have hnot : ¬ s.mStreamDropped lI = true := by
          intro hold
          rw [hs lI hold] at hgt
          cases aHealth <;> exact absurd hgt (by decide)
        split_ifs at hdropped with hmanual
        · rcases Bool.or_eq_true_iff.mp hdropped with hold | hnew
          · exact absurd hold hnot
          · exact ⟨hmanual, of_decide_eq_true (Bool.and_eq_true_iff.mp hnew).1⟩
        · exact absurd hdropped hnot
      refine ⟨fun lI hdropped => ?_, fun lI hdropped => ?_⟩
      · rw [hturned.health]
        exact (hpaused lI hdropped).2
      · rw [hturned.manual]
        exact (hpaused lI hdropped).1
  | increase aHealth hlt hturned =>
      have hbetter : aHealth ≠ .severe := by
        rintro rfl
        cases hhealth : s.mCurrentHealth <;> rw [hhealth] at hlt <;>
          exact absurd hlt (by decide)
      have hresumed : ∀ lI, ¬ s'.mStreamDropped lI = true := by
        intro lI hdropped
        rw [hturned.mStreamDropped, increased] at hdropped
        split_ifs at hdropped with hmanual
        · exact hbetter (of_decide_eq_true (Bool.and_eq_true_iff.mp hdropped).2)
        · exact hmanual (hresumable lI hdropped)
      exact ⟨fun lI h => absurd h (hresumed lI), fun lI h => absurd h (hresumed lI)⟩

/-- What is paused and has a manual multiplier is still paused after an
`update`. -/
theorem mStreamDropped_update {cfg : BandwidthManagerConfig F} {s : BandwidthManager F}
    {lI : UInt8} (hmanual : ¬ s.mManualMultiplier lI < 0) (clk : UpdateClock) :
    (s.update cfg clk).1.mStreamDropped lI = s.mStreamDropped lI := by
  by_cases hdue : UpdateDue cfg s clk.lNow
  · rw [update_of_due hdue]
    have hevaluated := (evaluated_moves cfg (s.measured clk.lNow) clk.changed).1
    have hprobed := (probed_moves cfg ((s.measured clk.lNow).evaluated cfg clk.changed).1 clk).1
    have hfirst := hevaluated.stream_of_manual hmanual
    have hmanual' : ¬ _ := hevaluated.manual ▸ hmanual
    have hsecond := hprobed.stream_of_manual hmanual'
    exact congrArg Prod.snd (hsecond.trans hfirst)
  · rw [update_of_not_due hdue]

theorem mCurrentHealth_of_leavesSevere {cfg : BandwidthManagerConfig F} {s : BandwidthManager F}
    {clk : UpdateClock} (h : LeavesSevere cfg s clk.lNow) :
    (s.update cfg clk).1.mCurrentHealth ≠ .severe := by
  obtain ⟨hdue, hsevere, hbetter⟩ := h
  rw [update_of_due hdue]
  have hevaluated := (evaluated_moves cfg (s.measured clk.lNow) clk.changed).2
  by_cases hmetrics : (s.measured clk.lNow).evaluateHealth cfg = .severe
  · have hprobing := hbetter.resolve_left (not_not.mpr hmetrics)
    have hcongested : improved (s.measured clk.lNow).mCurrentHealth = some .congested :=
      congrArg improved hsevere
    rw [evaluated_of_eq (hmetrics.trans hsevere.symm), (probed_of_due hcongested hprobing).health]
    decide
  · have hle := (probed_moves cfg ((s.measured clk.lNow).evaluated cfg clk.changed).1 clk).2
    intro hend
    rw [hend, hevaluated] at hle
    cases hhealth : (s.measured clk.lNow).evaluateHealth cfg with
    | severe => exact hmetrics hhealth
    | healthy | degraded | congested =>
        rw [hhealth] at hle
        exact absurd hle (by decide)

theorem pausedWhileSevere_update {cfg : BandwidthManagerConfig F} {s : BandwidthManager F}
    (hs : s.PausedWhileSevere) (clk : UpdateClock) :
    (s.update cfg clk).1.PausedWhileSevere ↔ ResumesAll cfg s (.update clk) := by
  constructor
  · intro h hleaves lI hdropped
    by_contra hmanual
    have hkept : (s.update cfg clk).1.mStreamDropped lI = s.mStreamDropped lI :=
      mStreamDropped_update hmanual clk
    rw [← hkept] at hdropped
    exact mCurrentHealth_of_leavesSevere hleaves (h lI hdropped)
  · intro h
    by_cases hdue : UpdateDue cfg s clk.lNow
    · rw [update_of_due hdue]
      by_cases hresumable : s.Resumable
      · obtain ⟨hpaused, hreach⟩ := PausedWhileSevere.moves (s := s.measured clk.lNow) hs
          hresumable (evaluated_moves cfg _ clk.changed).1
        exact (hpaused.moves hreach (probed_moves cfg _ clk).1).1
      · -- something is paused, so the health is severe, and nothing makes it better
        have hsevere : s.mCurrentHealth = .severe := by
          by_contra hbetter
          exact hresumable fun lI hdropped => absurd (hs lI hdropped) hbetter
        have hstays := not_or.mp fun hbetter => hresumable (h ⟨hdue, hsevere, hbetter⟩)
        rw [evaluated_of_eq ((not_not.mp hstays.1).trans hsevere.symm), probed_of_not_due hstays.2]
        exact hs
    · rw [update_of_not_due hdue]
      exact hs

omit [FloatOps F] in
theorem PausedWhileSevere.updateStreamMultiplier {s : BandwidthManager F}
    (hs : s.PausedWhileSevere) (aStreamId : UInt8) :
    (s.updateStreamMultiplier aStreamId).1.PausedWhileSevere := by
  rw [updateStreamMultiplier_eq]
  obtain ⟨hshared, hdropped, -⟩ := setMultiplier_spec s s aStreamId (s.chosenMultiplier aStreamId)
  intro lI h
  rw [hdropped] at h
  rw [← hs lI h]
  exact (congrArg mCurrentHealth hshared : (sharedWith s _).mCurrentHealth = _)

theorem pausedWhileSevere_step (senderCfg : SenderConfig) (cfg : BandwidthManagerConfig F)
    {s : BandwidthManager F} (hs : s.PausedWhileSevere) (call : BandwidthCall F) :
    ((machine senderCfg cfg).step s call).1.PausedWhileSevere ↔ ResumesAll cfg s call := by
  cases call with
  | update clk => exact pausedWhileSevere_update hs clk
  | setStreamConfig aStreamId aConfig =>
      exact iff_of_true (PausedWhileSevere.updateStreamMultiplier (by exact hs) aStreamId) trivial
  | setManualMultiplier aStreamId aMultiplier =>
      exact iff_of_true (PausedWhileSevere.updateStreamMultiplier (by exact hs) aStreamId) trivial
  | clearManualMultiplier aStreamId =>
      exact iff_of_true (PausedWhileSevere.updateStreamMultiplier (by exact hs) aStreamId) trivial
  | send clk aData args =>
      refine iff_of_true ?_ trivial
      simp only [machine, send]
      split_ifs
      · exact hs
      · exact hs
  | receiveNack aData =>
      refine iff_of_true ?_ trivial
      simp only [machine, receiveNack]
      split_ifs
      · exact hs
      · exact hs
  | processRetransmits aMaxCount => exact iff_of_true hs trivial
  | updateJitter aJitterUs => exact iff_of_true hs trivial
  | updateRtt aRttUs =>
      refine iff_of_true ?_ trivial
      simp only [machine, updateRtt]
      split_ifs
      · exact hs
      · exact hs
      · exact hs

omit [Field F] [LinearOrder F] [FloatOps F] in
theorem send_of_pausedWhileSevere {s : BandwidthManager F} (hs : s.PausedWhileSevere)
    (hhealth : s.mCurrentHealth ≠ .severe) (senderCfg : SenderConfig) (clk : SendClock)
    (aData : List UInt8) (args : SendArgs) :
    s.send senderCfg clk aData args =
      (({ s with mSender := (s.mSender.send senderCfg clk aData args).1.1 },
        (s.mSender.send senderCfg clk aData args).1.2),
        (s.mSender.send senderCfg clk aData args).2) := by
  rw [send, if_neg]
  intro hdropped
  exact hhealth (hs args.aStreamId hdropped)

/-- In a run streams are paused only while the congestion is severe, just as
long as no `update` that makes a severe health better finds a paused stream
with a manual multiplier. -/
theorem pausedWhileSevere_run_iff (senderCfg : SenderConfig) (cfg : BandwidthManagerConfig F)
    (calls : List (BandwidthCall F)) :
    (∀ before, before <+: calls →
        ((machine senderCfg cfg).run (new senderCfg) before).1.PausedWhileSevere) ↔
      (machine senderCfg cfg).Along (ResumesAll cfg) (new senderCfg) calls := by
  apply (machine senderCfg cfg).run_prefix_iff (I := fun _ => True)
  · exact fun _ _ _ => trivial
  · exact fun s call _ hs => pausedWhileSevere_step senderCfg cfg hs call
  · trivial
  · intro lI h
    cases h

end BandwidthManager

namespace Sample

def videoCfg : StreamBandwidthConfig ℚ where
  mMinMultiplier := 0
  mMaxMultiplier := 1
  mDropOnSevereCongestion := true

def senderCfg : SenderConfig := SenderConfig.new 256 .single 1000 100

def emptyNack : List UInt8 := [0, 1, 0]

def updateAt (lNow : ℤ) : BandwidthCall ℚ := .update ⟨lNow, lNow, lNow⟩

/-- Six NACKs in the first 50 ms pause stream 3, which is then given a manual
multiplier. -/
def overriddenRun : List (BandwidthCall ℚ) :=
  .setStreamConfig 3 videoCfg :: List.replicate 6 (.receiveNack emptyNack) ++
    [updateAt 50000, .setManualMultiplier 3 0.5]

def overridden : BandwidthManager ℚ :=
  ((BandwidthManager.machine senderCfg BandwidthManagerConfig.default).run
    (BandwidthManager.new senderCfg) overriddenRun).1

def pausedRun : List (BandwidthCall ℚ) := overriddenRun ++ [updateAt 100000]

theorem run_pausedRun :
    ((BandwidthManager.machine senderCfg BandwidthManagerConfig.default).run
      (BandwidthManager.new senderCfg) pausedRun).1 =
      (overridden.update BandwidthManagerConfig.default ⟨100000, 100000, 100000⟩).1 := by
  rw [pausedRun, Machine.run_concat, ← overridden]
  rfl

theorem overridden_spec :
    overridden.mStreamDropped 3 = true ∧ ¬ overridden.mManualMultiplier 3 < 0 ∧
      BandwidthManager.LeavesSevere BandwidthManagerConfig.default overridden 100000 := by
  decide +kernel

end Sample

theorem not_pausedWhileSevere_pausedRun :
    ¬ ∀ before, before <+: Sample.pausedRun →
      ((BandwidthManager.machine Sample.senderCfg BandwidthManagerConfig.default).run
        (BandwidthManager.new Sample.senderCfg) before).1.PausedWhileSevere := by
  intro h
  have hpaused := h _ (List.prefix_refl _)
  rw [Sample.run_pausedRun] at hpaused
  obtain ⟨hdropped, hmanual, hleaves⟩ := Sample.overridden_spec
  rw [← BandwidthManager.mStreamDropped_update hmanual ⟨100000, 100000, 100000⟩] at hdropped
  have hhealth : (Sample.overridden.update BandwidthManagerConfig.default
      ⟨100000, 100000, 100000⟩).1.mCurrentHealth ≠ .severe :=
    BandwidthManager.mCurrentHealth_of_leavesSevere hleaves
  exact hhealth (hpaused 3 hdropped)

end ElasticFrame
