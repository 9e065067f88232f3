import ElasticFrame.Sender.Send
import ElasticFrame.Lib.FloatOps

/-!
`efp::BandwidthManager`: a sender with a multiplier for each of the 256
streams. A periodic `update` derives the health of the network from the rate
of NACKs and the jitter, lowers the multipliers when the health gets worse and
raises them when it gets better, and may pause a stream while the health is
at its worst.

What the source keeps in `float` is a number of an ordered field `F`. The
multipliers are exact numbers. The NACK rate and the ratio of the RTTs are
computed with operations on `F` that may round in any way, and give any number
for a division by zero. Times are integers, and so are the clock readings, which
are arguments; the counters of the statistics are naturals.
-/

namespace ElasticFrame

open Lib

inductive NetworkHealth
  | healthy
  | degraded
  | congested
  | severe
  deriving DecidableEq, Repr

/-- `(uint8_t)(health)`. -/
def NetworkHealth.code : NetworkHealth → ℕ
  | healthy => 0
  | degraded => 1
  | congested => 2
  | severe => 3

instance : LinearOrder NetworkHealth :=
  LinearOrder.lift' NetworkHealth.code fun a b h => by cases a <;> cases b <;> first | rfl | cases h

structure StreamBandwidthConfig (F : Type*) where
  mMinMultiplier : F
  mMaxMultiplier : F
  mDropOnSevereCongestion : Bool

structure BandwidthManagerConfig (F : Type*) where
  mNackRateDegraded : F
  mNackRateCongested : F
  mNackRateSevere : F
  mJitterDegradedUs : ℤ
  mJitterCongestedUs : ℤ
  mProbeIntervalMs : UInt32
  mRecoveryWindowMs : UInt32
  mUpdateIntervalMs : UInt32
  mAdditiveIncrease : F

structure BandwidthManager (F : Type*) where
  mSender : Sender
  mStreamConfigs : UInt8 → StreamBandwidthConfig F
  mCurrentMultipliers : UInt8 → F
  mStreamDropped : UInt8 → Bool
  mManualMultiplier : UInt8 → F
  mCurrentHealth : NetworkHealth
  mSmoothedNackRate : F
  mSmoothedJitterUs : ℤ
  mSmoothedRttUs : ℤ
  mLastUpdateUs : ℤ
  mRecoveryStartUs : ℤ
  mRecentNackCount : UInt32
  mProbesReceived : ℕ
  mProbeFailures : UInt8
  mBaselineRttUs : ℤ
  mStableRttSamples : UInt32
  mBandwidthReductions : ℕ
  mBandwidthIncreases : ℕ
  mStreamsDropped : ℕ

/-- What a manager puts out: the packets of its sender, and the calls of its
two callbacks. -/
inductive BandwidthEvent (F : Type*)
  | packet (p : Packet)
  | mBandwidthCallback (aStreamId : UInt8) (newMultiplier : F)
  | mDropCallback (aStreamId : UInt8) (dropped : Bool)

/-- The two readings of the clock behind that of `update` itself: when the
health has changed, and when probing has improved it. -/
structure UpdateClock where
  lNow : ℤ
  changed : ℤ
  improved : ℤ

/-- `lI` of the loops over all streams. -/
def streams : List UInt8 := (List.range 256).map UInt8.ofNat

theorem mem_streams (lI : UInt8) : lI ∈ streams :=
  List.mem_map.mpr ⟨lI.toNat, List.mem_range.mpr lI.toNat_lt, UInt8.ofNat_toNat⟩

variable {F : Type*} [Field F] [LinearOrder F]

/-- `std::clamp`. -/
def clamp (v lo hi : F) : F := if v < lo then lo else if hi < v then hi else v

def StreamBandwidthConfig.default : StreamBandwidthConfig F where
  mMinMultiplier := 0
  mMaxMultiplier := 1
  mDropOnSevereCongestion := false

def BandwidthManagerConfig.default : BandwidthManagerConfig F where
  mNackRateDegraded := 5
  mNackRateCongested := 15
  mNackRateSevere := 30
  mJitterDegradedUs := 50000
  mJitterCongestedUs := 100000
  mProbeIntervalMs := 100
  mRecoveryWindowMs := 1000
  mUpdateIntervalMs := 50
  mAdditiveIncrease := 0.1

namespace BandwidthManager

/-- The constructor. -/
def new (senderCfg : SenderConfig) : BandwidthManager F where
  mSender := Sender.new senderCfg
  mStreamConfigs _ := StreamBandwidthConfig.default
  mCurrentMultipliers _ := 1
  mStreamDropped _ := false
  mManualMultiplier _ := -1
  mCurrentHealth := .healthy
  mSmoothedNackRate := 0
  mSmoothedJitterUs := 0
  mSmoothedRttUs := 0
  mLastUpdateUs := 0
  mRecoveryStartUs := 0
  mRecentNackCount := 0
  mProbesReceived := 0
  mProbeFailures := 0
  mBaselineRttUs := 0
  mStableRttSamples := 0
  mBandwidthReductions := 0
  mBandwidthIncreases := 0
  mStreamsDropped := 0

/-! ### Multipliers -/

def getTargetMultiplier (s : BandwidthManager F) (aStreamId : UInt8) (aHealth : NetworkHealth) :
    F :=
  let lConfig := s.mStreamConfigs aStreamId
  let lTarget :=
    match aHealth with
    | .healthy => 1
    | .degraded => 0.7
    | .congested => 0.5
    | .severe => lConfig.mMinMultiplier
  clamp lTarget lConfig.mMinMultiplier lConfig.mMaxMultiplier

/-- A multiplier is set, and the callback called if that changes it. -/
def setMultiplier (s : BandwidthManager F) (aStreamId : UInt8) (lNewMult : F) :
    BandwidthManager F × List (BandwidthEvent F) :=
  if lNewMult ≠ s.mCurrentMultipliers aStreamId then
    ({ s with mCurrentMultipliers := Function.update s.mCurrentMultipliers aStreamId lNewMult },
      [.mBandwidthCallback aStreamId lNewMult])
  else (s, [])

def updateStreamMultiplier (s : BandwidthManager F) (aStreamId : UInt8) :
    BandwidthManager F × List (BandwidthEvent F) :=
  if s.mManualMultiplier aStreamId ≥ 0 then
    s.setMultiplier aStreamId
      (clamp (s.mManualMultiplier aStreamId) (s.mStreamConfigs aStreamId).mMinMultiplier
        (s.mStreamConfigs aStreamId).mMaxMultiplier)
  else s.setMultiplier aStreamId (s.getTargetMultiplier aStreamId s.mCurrentHealth)

def setStreamConfig (s : BandwidthManager F) (aStreamId : UInt8)
    (aConfig : StreamBandwidthConfig F) : BandwidthManager F × List (BandwidthEvent F) :=
  { s with
    mStreamConfigs :=
      Function.update s.mStreamConfigs aStreamId aConfig }.updateStreamMultiplier aStreamId

def setManualMultiplier (s : BandwidthManager F) (aStreamId : UInt8) (aMultiplier : F) :
    BandwidthManager F × List (BandwidthEvent F) :=
  { s with
    mManualMultiplier :=
      Function.update s.mManualMultiplier aStreamId
        (clamp aMultiplier 0 1) }.updateStreamMultiplier aStreamId

def clearManualMultiplier (s : BandwidthManager F) (aStreamId : UInt8) :
    BandwidthManager F × List (BandwidthEvent F) :=
  { s with
    mManualMultiplier :=
      Function.update s.mManualMultiplier aStreamId (-1) }.updateStreamMultiplier aStreamId

/-! ### Changes of the health -/

def setDropped (s : BandwidthManager F) (lI : UInt8) (dropped : Bool) :
    BandwidthManager F × List (BandwidthEvent F) :=
  ({ s with
    mStreamDropped := Function.update s.mStreamDropped lI dropped
    mStreamsDropped := if dropped then s.mStreamsDropped + 1 else s.mStreamsDropped },
    [.mDropCallback lI dropped])

/-- One turn of the loop that lowers the multipliers. -/
def decreaseStream (aNewHealth : NetworkHealth) (s : BandwidthManager F) (lI : UInt8) :
    BandwidthManager F × List (BandwidthEvent F) :=
  if s.mManualMultiplier lI < 0 then
    let lTarget := s.getTargetMultiplier lI aNewHealth
    let lowered :=
      if lTarget < s.mCurrentMultipliers lI then s.setMultiplier lI lTarget else (s, [])
    let dropped :=
      if aNewHealth = .severe ∧ (s.mStreamConfigs lI).mDropOnSevereCongestion ∧
          ¬ s.mStreamDropped lI then
        lowered.1.setDropped lI true
      else (lowered.1, [])
    (dropped.1, lowered.2 ++ dropped.2)
  else (s, [])

/-- One turn of the loops that raise the multipliers. -/
def increaseStream (cfg : BandwidthManagerConfig F) (aNewHealth : NetworkHealth)
    (s : BandwidthManager F) (lI : UInt8) : BandwidthManager F × List (BandwidthEvent F) :=
  if s.mManualMultiplier lI < 0 then
    let lTarget := s.getTargetMultiplier lI aNewHealth
    let lNewMult := min (s.mCurrentMultipliers lI + cfg.mAdditiveIncrease) lTarget
    let lNewMult :=
      clamp lNewMult (s.mStreamConfigs lI).mMinMultiplier (s.mStreamConfigs lI).mMaxMultiplier
    let raised := s.setMultiplier lI lNewMult
    let resumed :=
      if s.mStreamDropped lI ∧ aNewHealth ≠ .severe then raised.1.setDropped lI false
      else (raised.1, [])
    (resumed.1, raised.2 ++ resumed.2)
  else (s, [])

def decreaseMachine (aNewHealth : NetworkHealth) :
    Machine (BandwidthManager F) UInt8 (BandwidthEvent F) where
  step := decreaseStream aNewHealth

def increaseMachine (cfg : BandwidthManagerConfig F) (aNewHealth : NetworkHealth) :
    Machine (BandwidthManager F) UInt8 (BandwidthEvent F) where
  step := increaseStream cfg aNewHealth

/-- The recovery is tracked anew. -/
def resetRecovery (s : BandwidthManager F) (lNow : ℤ) : BandwidthManager F :=
  { s with mStableRttSamples := 0, mRecoveryStartUs := lNow }

def handleHealthChange (cfg : BandwidthManagerConfig F) (s : BandwidthManager F)
    (aNewHealth : NetworkHealth) (lNow : ℤ) : BandwidthManager F × List (BandwidthEvent F) :=
  let lOldHealth := s.mCurrentHealth
  let s := { s with mCurrentHealth := aNewHealth }
  let changed :=
    if aNewHealth > lOldHealth then
      (decreaseMachine aNewHealth).run
        { s with mBandwidthReductions := s.mBandwidthReductions + 1 } streams
    else if aNewHealth < lOldHealth then
      (increaseMachine cfg aNewHealth).run
        { s with mBandwidthIncreases := s.mBandwidthIncreases + 1 } streams
    else (s, [])
  (changed.1.resetRecovery lNow, changed.2)

def improved : NetworkHealth → Option NetworkHealth
  | .severe => some .congested
  | .congested => some .degraded
  | .degraded => some .healthy
  | .healthy => none

def tryBandwidthIncrease (cfg : BandwidthManagerConfig F) (s : BandwidthManager F) (lNow : ℤ) :
    BandwidthManager F × List (BandwidthEvent F) :=
  match improved s.mCurrentHealth with
  | none => (s, [])
  | some mCurrentHealth =>
      let raised :=
        (increaseMachine cfg mCurrentHealth).run
          { s with mCurrentHealth, mBandwidthIncreases := s.mBandwidthIncreases + 1 } streams
      (raised.1.resetRecovery lNow, raised.2)

/-- The recovery window is over and the RTT has been stable for long enough. -/
def ProbingDue (cfg : BandwidthManagerConfig F) (s : BandwidthManager F) (aNow : ℤ) : Prop :=
  ¬ aNow - s.mRecoveryStartUs < (cfg.mRecoveryWindowMs.toNat : ℤ) * 1000 ∧
    s.mStableRttSamples ≥ cfg.mRecoveryWindowMs / cfg.mProbeIntervalMs

instance (cfg : BandwidthManagerConfig F) (s : BandwidthManager F) (aNow : ℤ) :
    Decidable (ProbingDue cfg s aNow) :=
  inferInstanceAs (Decidable (_ ∧ _))

def processProbing (cfg : BandwidthManagerConfig F) (s : BandwidthManager F) (aNow lNow : ℤ) :
    BandwidthManager F × List (BandwidthEvent F) :=
  if ProbingDue cfg s aNow then s.tryBandwidthIncrease cfg lNow else (s, [])

/-! ### Metrics -/

def evaluateNackHealth (cfg : BandwidthManagerConfig F) (s : BandwidthManager F) : NetworkHealth :=
  if s.mSmoothedNackRate ≥ cfg.mNackRateSevere then .severe
  else if s.mSmoothedNackRate ≥ cfg.mNackRateCongested then .congested
  else if s.mSmoothedNackRate ≥ cfg.mNackRateDegraded then .degraded
  else .healthy

def evaluateDelayHealth (cfg : BandwidthManagerConfig F) (s : BandwidthManager F) :
    NetworkHealth :=
  if s.mSmoothedJitterUs ≥ cfg.mJitterCongestedUs then .congested
  else if s.mSmoothedJitterUs ≥ cfg.mJitterDegradedUs then .degraded
  else .healthy

def evaluateHealth (cfg : BandwidthManagerConfig F) (s : BandwidthManager F) : NetworkHealth :=
  max (s.evaluateNackHealth cfg) (s.evaluateDelayHealth cfg)

/-- The NACKs since the last update go into the smoothed rate. -/
def measured [FloatOps F] (s : BandwidthManager F) (lNow : ℤ) : BandwidthManager F :=
  let lElapsedMs : F :=
    FloatOps.div (FloatOps.ofInt (lNow - s.mLastUpdateUs)) (FloatOps.ofInt 1000)
  let lNackRate : F :=
    FloatOps.div (FloatOps.ofInt s.mRecentNackCount.toNat)
      (FloatOps.div lElapsedMs (FloatOps.ofInt 1000))
  { s with
    mLastUpdateUs := lNow
    mRecentNackCount := 0
    mSmoothedNackRate :=
      FloatOps.add (FloatOps.mul s.mSmoothedNackRate (FloatOps.ratio 7 10))
        (FloatOps.mul lNackRate (FloatOps.ratio 3 10)) }

/-- `lElapsedMs / 1000`, which `update` divides by. -/
def elapsed [FloatOps F] (s : BandwidthManager F) (lNow : ℤ) : F :=
  FloatOps.div (FloatOps.div (FloatOps.ofInt (lNow - s.mLastUpdateUs)) (FloatOps.ofInt 1000))
    (FloatOps.ofInt 1000)

def UpdateDue (cfg : BandwidthManagerConfig F) (s : BandwidthManager F) (lNow : ℤ) : Prop :=
  ¬ lNow - s.mLastUpdateUs < (cfg.mUpdateIntervalMs.toNat : ℤ) * 1000

instance (cfg : BandwidthManagerConfig F) (s : BandwidthManager F) (lNow : ℤ) :
    Decidable (UpdateDue cfg s lNow) :=
  inferInstanceAs (Decidable (¬ _))

def evaluated (cfg : BandwidthManagerConfig F) (s : BandwidthManager F) (lNow : ℤ) :
    BandwidthManager F × List (BandwidthEvent F) :=
  let lNewHealth := s.evaluateHealth cfg
  if lNewHealth ≠ s.mCurrentHealth then s.handleHealthChange cfg lNewHealth lNow else (s, [])

def update [FloatOps F] (cfg : BandwidthManagerConfig F) (s : BandwidthManager F)
    (clk : UpdateClock) : BandwidthManager F × List (BandwidthEvent F) :=
  if UpdateDue cfg s clk.lNow then
    let changed := (s.measured clk.lNow).evaluated cfg clk.changed
    let probed :=
      if changed.1.mCurrentHealth ≠ .healthy then
        changed.1.processProbing cfg clk.lNow clk.improved
      else (changed.1, [])
    (probed.1, changed.2 ++ probed.2)
  else (s, [])

def updateJitter (s : BandwidthManager F) (aJitterUs : ℤ) : BandwidthManager F :=
  let lDeviation := if aJitterUs < 0 then -aJitterUs else aJitterUs
  { s with
    mSmoothedJitterUs := s.mSmoothedJitterUs + (lDeviation - s.mSmoothedJitterUs).tdiv 16 }

def updateRtt [FloatOps F] (s : BandwidthManager F) (aRttUs : ℤ) : BandwidthManager F :=
  let mSmoothedRttUs := s.mSmoothedRttUs + (aRttUs - s.mSmoothedRttUs).tdiv 8
  let s :=
    { s with mSmoothedRttUs, mProbesReceived := s.mProbesReceived + 1, mProbeFailures := 0 }
  if s.mBaselineRttUs = 0 then { s with mBaselineRttUs := mSmoothedRttUs }
  else
    let lRatio : F :=
      FloatOps.div (FloatOps.ofInt mSmoothedRttUs) (FloatOps.ofInt s.mBaselineRttUs)
    if lRatio ≥ FloatOps.ratio 8 10 ∧ lRatio ≤ FloatOps.ratio 12 10 then
      { s with mStableRttSamples := s.mStableRttSamples + 1 }
    else { s with mStableRttSamples := 0 }

/-- `processRttResponse`, at the clock reading `lNow`. -/
def processRttResponse [FloatOps F] (s : BandwidthManager F) (lNow : ℤ) (aData : List UInt8) :
    BandwidthManager F × Result :=
  if aData.length < FrameType0RttResponse.sizeof then (s, .frameSizeMismatch)
  else
    let lpResponse := FrameType0RttResponse.read aData
    if getFrameType lpResponse.mFrameType ≠ some .type0 then (s, .invalidParameter)
    else if lpResponse.mSubtype ≠ type0SubtypeRttResponse then (s, .invalidParameter)
    else
      let lRtt := lNow - lpResponse.mTimestampUs.toInt64.toInt
      if lRtt > 0 ∧ lRtt < 30000000 then (s.updateRtt lRtt, .ok) else (s, .ok)

/-! ### The wrapped sender -/

def send (senderCfg : SenderConfig) (clk : SendClock) (s : BandwidthManager F)
    (aData : List UInt8) (args : SendArgs) : (BandwidthManager F × List Packet) × Result :=
  if s.mStreamDropped args.aStreamId then ((s, []), .ok)
  else
    let sent := s.mSender.send senderCfg clk aData args
    (({ s with mSender := sent.1.1 }, sent.1.2), sent.2)

def receiveNack (s : BandwidthManager F) (aData : List UInt8) : BandwidthManager F × Result :=
  let lResult := s.mSender.receiveNack aData
  let s := { s with mSender := lResult.1 }
  if lResult.2 = .ok then
    ({ s with mRecentNackCount := s.mRecentNackCount + 1 }, lResult.2)
  else (s, lResult.2)

def processRetransmits (s : BandwidthManager F) (aMaxCount : ℕ) :
    BandwidthManager F × List Packet :=
  let sent := s.mSender.processRetransmits aMaxCount
  ({ s with mSender := sent.1 }, sent.2)

end BandwidthManager

inductive BandwidthCall (F : Type*)
  | setStreamConfig (aStreamId : UInt8) (aConfig : StreamBandwidthConfig F)
  | setManualMultiplier (aStreamId : UInt8) (aMultiplier : F)
  | clearManualMultiplier (aStreamId : UInt8)
  | send (clk : SendClock) (aData : List UInt8) (args : SendArgs)
  | receiveNack (aData : List UInt8)
  | processRetransmits (aMaxCount : ℕ)
  | updateJitter (aJitterUs : ℤ)
  | updateRtt (aRttUs : ℤ)
  | update (clk : UpdateClock)

/-- The bandwidth manager as a machine that puts out packets and callbacks. -/
def BandwidthManager.machine [FloatOps F] (senderCfg : SenderConfig)
    (cfg : BandwidthManagerConfig F) :
    Machine (BandwidthManager F) (BandwidthCall F) (BandwidthEvent F) where
  step s
    | .setStreamConfig aStreamId aConfig => s.setStreamConfig aStreamId aConfig
    | .setManualMultiplier aStreamId aMultiplier => s.setManualMultiplier aStreamId aMultiplier
    | .clearManualMultiplier aStreamId => s.clearManualMultiplier aStreamId
    | .send clk aData args =>
        let sent := (s.send senderCfg clk aData args).1
        (sent.1, sent.2.map .packet)
    | .receiveNack aData => ((s.receiveNack aData).1, [])
    | .processRetransmits aMaxCount =>
        let sent := s.processRetransmits aMaxCount
        (sent.1, sent.2.map .packet)
    | .updateJitter aJitterUs => (s.updateJitter aJitterUs, [])
    | .updateRtt aRttUs => (s.updateRtt aRttUs, [])
    | .update clk => s.update cfg clk

end ElasticFrame
