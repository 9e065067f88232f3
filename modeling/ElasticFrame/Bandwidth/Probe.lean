import ElasticFrame.Bandwidth.Rtt
import ElasticFrame.Lib.Lists
import ElasticFrame.Lib.Binary32

/-!
RTT probing. A probe carries the time at which it was built, and a response
echoes it; when the response arrives, the manager takes the difference to the
time then for the RTT. There is no list of probes that are out: the path may
lose, repeat and reorder both, and every response that arrives counts.

Below, the path with the messages on it is set against one on which there are
no messages, only the times at which probes were built. The manager measures
the same on both: the age of the probe that is answered.
-/

namespace ElasticFrame

open Lib

/-! ### Messages -/

structure FrameType0RttProbe where
  mFrameType : UInt8
  mSubtype : UInt8
  mSequenceNo : UInt16
  mTimestampUs : UInt64
  deriving DecidableEq, Repr

def FrameType0RttProbe.sizeof : ℕ := 12

/-- `Type0Subtype::RTT_PROBE`. -/
def type0SubtypeRttProbe : UInt8 := 2

def FrameType0RttProbe.bytes (h : FrameType0RttProbe) : List UInt8 :=
  h.mFrameType :: h.mSubtype :: (u16Bytes h.mSequenceNo ++ u64Bytes h.mTimestampUs)

def FrameType0RttProbe.read (data : List UInt8) : FrameType0RttProbe where
  mFrameType := byteAt data 0
  mSubtype := byteAt data 1
  mSequenceNo := u16At data 2
  mTimestampUs := u64At data 4

def FrameType0RttResponse.bytes (h : FrameType0RttResponse) : List UInt8 :=
  h.mFrameType :: h.mSubtype ::
    (u16Bytes h.mSequenceNo ++ (u64Bytes h.mTimestampUs ++ u64Bytes h.mReceiverTimeUs))

@[simp] theorem FrameType0RttProbe.length_bytes (h : FrameType0RttProbe) : h.bytes.length = 12 := by
  simp [bytes]

@[simp] theorem FrameType0RttResponse.length_bytes (h : FrameType0RttResponse) :
    h.bytes.length = 20 := by
  simp [bytes]

theorem FrameType0RttProbe.read_bytes (h : FrameType0RttProbe) : read h.bytes = h := by
  obtain ⟨t, s, n, ts⟩ := h
  have hn := u16At_append [t, s] (u64Bytes ts) 2 n rfl
  have hts := u64At_append (t :: s :: u16Bytes n) [] 4 ts (by simp)
  simp only [List.cons_append, List.nil_append, List.append_nil] at hn hts
  simp [read, bytes, byteAt, hn, hts]

theorem FrameType0RttResponse.read_bytes (h : FrameType0RttResponse) : read h.bytes = h := by
  obtain ⟨t, s, n, ts, rt⟩ := h
  have hn := u16At_append [t, s] (u64Bytes ts ++ u64Bytes rt) 2 n rfl
  have hts := u64At_append (t :: s :: u16Bytes n) (u64Bytes rt) 4 ts (by simp)
  have hrt := u64At_append (t :: s :: (u16Bytes n ++ u64Bytes ts)) [] 12 rt (by simp)
  simp only [List.cons_append, List.nil_append, List.append_assoc, List.append_nil] at hn hts hrt
  simp [read, bytes, byteAt, hn, hts, hrt]

/-- `(uint64_t)(nowUs())`. -/
def timestampOf (lNow : ℤ) : UInt64 := (Int64.ofInt lNow).toUInt64

/-- The cast back to `int64_t`, with which `processRttResponse` reads it. -/
theorem toInt_timestampOf {lNow : ℤ} (h : FitsInt64 lNow) :
    (timestampOf lNow).toInt64.toInt = lNow := by
  rw [timestampOf, Int64.toInt64_toUInt64, Int64.toInt_ofInt_of_le h.1 h.2]

/-! ### The prober -/

/-- A manager, with the two counters that only probing touches. -/
structure RttProber (F : Type*) where
  manager : BandwidthManager F
  mProbeSequenceNo : UInt16 := 0
  mProbesSent : ℕ := 0

variable {F : Type*}

def RttProber.buildRttProbe (s : RttProber F) (lNow : ℤ) : RttProber F × List UInt8 :=
  let lProbe : FrameType0RttProbe :=
    { mFrameType := makeFrameTypeByte .type0 0
      mSubtype := type0SubtypeRttProbe
      mSequenceNo := s.mProbeSequenceNo
      mTimestampUs := timestampOf lNow }
  ({ s with
      mProbeSequenceNo := s.mProbeSequenceNo + 1
      mProbesSent := s.mProbesSent + 1 }, lProbe.bytes)

/-- `buildRttResponse`, at the reading `lNow` of the receiver's clock. -/
def buildRttResponse (aProbeData : List UInt8) (lNow : ℤ) : List UInt8 :=
  if aProbeData.length < FrameType0RttProbe.sizeof then []
  else
    let lpProbe := FrameType0RttProbe.read aProbeData
    if getFrameType lpProbe.mFrameType ≠ some .type0 then []
    else if lpProbe.mSubtype ≠ type0SubtypeRttProbe then []
    else
      let lResponse : FrameType0RttResponse :=
        { mFrameType := makeFrameTypeByte .type0 0
          mSubtype := type0SubtypeRttResponse
          mSequenceNo := lpProbe.mSequenceNo
          mTimestampUs := lpProbe.mTimestampUs
          mReceiverTimeUs := timestampOf lNow }
      lResponse.bytes

def IsProbe (data : List UInt8) (built : ℤ) : Prop :=
  FitsInt64 built ∧ ∃ n, data = FrameType0RttProbe.bytes
    { mFrameType := makeFrameTypeByte .type0 0
      mSubtype := type0SubtypeRttProbe
      mSequenceNo := n
      mTimestampUs := timestampOf built }

def IsResponse (data : List UInt8) (built : ℤ) : Prop :=
  FitsInt64 built ∧ ∃ n lNow, data = FrameType0RttResponse.bytes
    { mFrameType := makeFrameTypeByte .type0 0
      mSubtype := type0SubtypeRttResponse
      mSequenceNo := n
      mTimestampUs := timestampOf built
      mReceiverTimeUs := timestampOf lNow }

theorem isProbe_buildRttProbe (s : RttProber F) {lNow : ℤ} (h : FitsInt64 lNow) :
    IsProbe (s.buildRttProbe lNow).2 lNow := ⟨h, s.mProbeSequenceNo, rfl⟩

theorem IsProbe.isResponse {data : List UInt8} {built : ℤ} (h : IsProbe data built) (lNow : ℤ) :
    IsResponse (buildRttResponse data lNow) built := by
  obtain ⟨hfits, n, rfl⟩ := h
  refine ⟨hfits, n, lNow, ?_⟩
  rw [buildRttResponse, FrameType0RttProbe.length_bytes, FrameType0RttProbe.read_bytes,
    if_neg (by decide)]
  simp

namespace BandwidthManager

variable [Field F] [LinearOrder F] [FloatOps F]

def measureRtt (s : BandwidthManager F) (age : ℤ) : BandwidthManager F :=
  if age > 0 ∧ age < 30000000 then s.updateRtt age else s

omit [Field F] in
theorem processRttResponse_of_isResponse (s : BandwidthManager F) {data : List UInt8} {built : ℤ}
    (h : IsResponse data built) (lNow : ℤ) :
    s.processRttResponse lNow data = (s.measureRtt (lNow - built), .ok) := by
  obtain ⟨hfits, n, lThen, rfl⟩ := h
  rw [processRttResponse, FrameType0RttResponse.length_bytes, FrameType0RttResponse.read_bytes,
    if_neg (by decide)]
  simp only [getFrameType_makeFrameTypeByte, ne_eq, not_true_eq_false, if_false,
    toInt_timestampOf hfits, measureRtt]
  split_ifs <;> rfl

end BandwidthManager

/-! ### The path -/

/-- A manager that probes, the clock of its host, and all probes and responses
that have been put on the path. -/
structure RttPath (F : Type*) where
  prober : RttProber F
  now : ℤ
  probes : List (List UInt8) := []
  responses : List (List UInt8) := []

/-- Time goes by, a probe is sent, a probe that has been sent arrives and is
answered, a response that has been sent arrives, or the manager is called. -/
inductive RttEvent (F : Type*)
  | wait (us : ℕ)
  | probe
  | answer (k : ℕ) (lNow : ℤ)
  | response (k : ℕ)
  | call (c : BandwidthCall F)

namespace RttPath

def new [Field F] (senderCfg : SenderConfig) (start : ℤ) : RttPath F where
  prober := { manager := BandwidthManager.new senderCfg }
  now := start

variable [Field F] [LinearOrder F] [FloatOps F]

def machine (senderCfg : SenderConfig) (cfg : BandwidthManagerConfig F) :
    Machine (RttPath F) (RttEvent F) (BandwidthEvent F) where
  step s
    | .wait us => ({ s with now := s.now + us }, [])
    | .probe =>
        let built := s.prober.buildRttProbe s.now
        ({ s with prober := built.1, probes := s.probes ++ [built.2] }, [])
    | .answer k lNow =>
        match s.probes[k]? with
        | none => (s, [])
        | some data => ({ s with responses := s.responses ++ [buildRttResponse data lNow] }, [])
    | .response k =>
        match s.responses[k]? with
        | none => (s, [])
        | some data =>
            let manager := (s.prober.manager.processRttResponse s.now data).1
            ({ s with prober := { s.prober with manager } }, [])
    | .call c =>
        let called := (BandwidthManager.machine senderCfg cfg).step s.prober.manager c
        ({ s with prober := { s.prober with manager := called.1 } }, called.2)

end RttPath

/-- The same path without messages: the times at which the probes were built
that are on it, and those that have been answered. -/
structure RttAges (F : Type*) where
  manager : BandwidthManager F
  now : ℤ
  probes : List ℤ := []
  responses : List ℤ := []

namespace RttAges

def new [Field F] (senderCfg : SenderConfig) (start : ℤ) : RttAges F where
  manager := BandwidthManager.new senderCfg
  now := start

variable [Field F] [LinearOrder F] [FloatOps F]

def machine (senderCfg : SenderConfig) (cfg : BandwidthManagerConfig F) :
    Machine (RttAges F) (RttEvent F) (BandwidthEvent F) where
  step s
    | .wait us => ({ s with now := s.now + us }, [])
    | .probe => ({ s with probes := s.probes ++ [s.now] }, [])
    | .answer k _ =>
        match s.probes[k]? with
        | none => (s, [])
        | some built => ({ s with responses := s.responses ++ [built] }, [])
    | .response k =>
        match s.responses[k]? with
        | none => (s, [])
        | some built => ({ s with manager := s.manager.measureRtt (s.now - built) }, [])
    | .call c =>
        let called := (BandwidthManager.machine senderCfg cfg).step s.manager c
        ({ s with manager := called.1 }, called.2)

end RttAges

/-! ### What is measured -/

/-- The messages on the path were built at the times on the other. -/
structure Ages (s : RttPath F) (t : RttAges F) : Prop where
  manager : s.prober.manager = t.manager
  now : s.now = t.now
  probes : List.Forall₂ IsProbe s.probes t.probes
  responses : List.Forall₂ IsResponse s.responses t.responses
  mProbesSent : s.prober.mProbesSent = s.probes.length

namespace RttPath

theorem ages_new [Field F] (senderCfg : SenderConfig) (start : ℤ) :
    Ages (new senderCfg start : RttPath F) (RttAges.new senderCfg start) :=
  ⟨rfl, rfl, .nil, .nil, rfl⟩

variable [Field F] [LinearOrder F] [FloatOps F]

theorem ages_step (senderCfg : SenderConfig) (cfg : BandwidthManagerConfig F) {s : RttPath F}
    {t : RttAges F} (h : Ages s t) (hnow : FitsInt64 s.now) (e : RttEvent F) :
    Ages ((machine senderCfg cfg).step s e).1 ((RttAges.machine senderCfg cfg).step t e).1 ∧
      ((machine senderCfg cfg).step s e).2 = ((RttAges.machine senderCfg cfg).step t e).2 := by
  obtain ⟨hmanager, hclock, hprobes, hresponses, hsent⟩ := h
  cases e with
  | wait us => exact ⟨⟨hmanager, congrArg (· + (us : ℤ)) hclock, hprobes, hresponses, hsent⟩, rfl⟩
  | probe =>
      refine ⟨⟨hmanager, hclock, ?_, hresponses, ?_⟩, rfl⟩
      · exact List.rel_append hprobes (.cons (hclock ▸ isProbe_buildRttProbe s.prober hnow) .nil)
      · simp only [machine, RttProber.buildRttProbe, hsent, List.length_append,
          List.length_singleton]
  | answer k lNow =>
      simp only [machine, RttAges.machine]
      rcases forall₂_getElem? hprobes k with ⟨hnone, hnone'⟩ | ⟨data, built, hdata, hbuilt, hprobe⟩
      · rw [hnone, hnone']
        exact ⟨⟨hmanager, hclock, hprobes, hresponses, hsent⟩, rfl⟩
      · rw [hdata, hbuilt]
        refine ⟨⟨hmanager, hclock, hprobes, ?_, hsent⟩, rfl⟩
        exact List.rel_append hresponses (.cons (hprobe.isResponse lNow) .nil)
  | response k =>
      simp only [machine, RttAges.machine]
      rcases forall₂_getElem? hresponses k with
        ⟨hnone, hnone'⟩ | ⟨data, built, hdata, hbuilt, hresponse⟩
      · rw [hnone, hnone']
        exact ⟨⟨hmanager, hclock, hprobes, hresponses, hsent⟩, rfl⟩
      · rw [hdata, hbuilt]
        refine ⟨⟨?_, hclock, hprobes, hresponses, hsent⟩, rfl⟩
        dsimp only
        rw [BandwidthManager.processRttResponse_of_isResponse _ hresponse, hmanager, hclock]
  | call c =>
      simp only [machine, RttAges.machine, hmanager]
      exact ⟨⟨rfl, hclock, hprobes, hresponses, hsent⟩, trivial⟩

theorem ages_run (senderCfg : SenderConfig) (cfg : BandwidthManagerConfig F) {s : RttPath F}
    {t : RttAges F} (h : Ages s t) {es : List (RttEvent F)}
    (hclock : (machine senderCfg cfg).Along (fun s _ => FitsInt64 s.now) s es) :
    Ages ((machine senderCfg cfg).run s es).1 ((RttAges.machine senderCfg cfg).run t es).1 ∧
      ((machine senderCfg cfg).run s es).2 = ((RttAges.machine senderCfg cfg).run t es).2 := by
  have hrun := (machine senderCfg cfg).run_simulation (RttAges.machine senderCfg cfg)
    (R := Ages) (C := fun s _ => FitsInt64 s.now) (p := some) (q := some)
    (fun s t e hR hnow => ?_) h hclock
  · simpa using hrun
  · obtain ⟨hages, hout⟩ := ages_step senderCfg cfg hR hnow e
    exact ⟨hages, congrArg (List.filterMap some) hout⟩

/-- Whatever the path does to probes and responses, a manager that probes takes
the age of the probe that is answered for the RTT, and nothing else: it runs as
if it were told the ages. -/
theorem measures_ages (senderCfg : SenderConfig) (cfg : BandwidthManagerConfig F) (start : ℤ)
    (es : List (RttEvent F))
    (hclock : (machine senderCfg cfg).Along (fun s _ => FitsInt64 s.now) (new senderCfg start) es) :
    ((machine senderCfg cfg).run (new senderCfg start) es).1.prober.manager =
        ((RttAges.machine senderCfg cfg).run (RttAges.new senderCfg start) es).1.manager ∧
      ((machine senderCfg cfg).run (new senderCfg start) es).2 =
        ((RttAges.machine senderCfg cfg).run (RttAges.new senderCfg start) es).2 ∧
      ((machine senderCfg cfg).run (new senderCfg start) es).1.prober.mProbesSent =
        ((RttAges.machine senderCfg cfg).run (RttAges.new senderCfg start) es).1.probes.length := by
  obtain ⟨hages, hout⟩ := ages_run senderCfg cfg (ages_new senderCfg start) hclock
  exact ⟨hages.manager, hout, hages.mProbesSent.trans hages.probes.length_eq⟩

/-- Two probes cross on the path. The first response arrives twice, the second
time after that of the second probe. -/
def crossing : List (RttEvent ℚ) :=
  [.probe, .wait 20000, .probe, .answer 1 7, .answer 0 7, .wait 30000, .response 1, .response 0,
    .call (.updateJitter 60000), .wait 1000000, .response 1]

theorem measures_ages_crossing :
    ((machine (SenderConfig.new 256 .single 0 0) (BandwidthManagerConfig.default (F := ℚ))).run
        (new (SenderConfig.new 256 .single 0 0) 5) crossing).1.prober.manager =
        ((RttAges.machine (SenderConfig.new 256 .single 0 0) (BandwidthManagerConfig.default)).run
          (RttAges.new (SenderConfig.new 256 .single 0 0) 5) crossing).1.manager ∧
      ((machine (SenderConfig.new 256 .single 0 0) (BandwidthManagerConfig.default (F := ℚ))).run
        (new (SenderConfig.new 256 .single 0 0) 5) crossing).2 =
        ((RttAges.machine (SenderConfig.new 256 .single 0 0) (BandwidthManagerConfig.default)).run
          (RttAges.new (SenderConfig.new 256 .single 0 0) 5) crossing).2 ∧
      ((machine (SenderConfig.new 256 .single 0 0) (BandwidthManagerConfig.default (F := ℚ))).run
        (new (SenderConfig.new 256 .single 0 0) 5) crossing).1.prober.mProbesSent =
        ((RttAges.machine (SenderConfig.new 256 .single 0 0) (BandwidthManagerConfig.default)).run
          (RttAges.new (SenderConfig.new 256 .single 0 0) 5) crossing).1.probes.length :=
  measures_ages (SenderConfig.new 256 .single 0 0) BandwidthManagerConfig.default 5 crossing
    (by decide +kernel)

end RttPath

end ElasticFrame
