import ElasticFrame.Receiver.Handlers
import ElasticFrame.Lib.Machine

/-!
The periodic side of `efp::Receiver`: NACK generation, the selection of the
frames that are due, their delivery, and the entry points `receive` and
`poll`.

Callbacks are taken not to call back into the receiver. A frame counts as
delivered when `deliverFrame` hands it over, to the callback or to the queue
of the delivery thread.
-/

namespace ElasticFrame

open Lib

/-! ### NACK messages -/

/-- The pending range of the scan in `buildNack`: `none` for the sentinel
`lRangeStart == UINT16_MAX`, else start and additional count. -/
abbrev NackRange := Option (ℕ × ℕ)

def Bucket.nackEntry (b : Bucket) (lRangeStart lRangeCount : ℕ) : NackEntry where
  mStreamId := b.mStreamId
  mSuperFrameNo := b.mSavedFrameNo
  mFragmentNo := UInt16.ofNat lRangeStart
  mFragmentCount := UInt8.ofNat lRangeCount

/-- The scan for missing fragments `lI, lI + 1, ..`, `count` of them. -/
def Bucket.nackScan (b : Bucket) : (count lI : ℕ) → NackRange → List NackEntry
  | 0, _, none => []
  | 0, _, some (lRangeStart, lRangeCount) => [b.nackEntry lRangeStart lRangeCount]
  | count + 1, lI, range =>
      if lI ∉ b.mReceivedFragments then
        match range with
        | none => b.nackScan count (lI + 1) (some (lI, 0))
        | some (lRangeStart, lRangeCount) =>
            if lRangeCount < 255 then
              b.nackScan count (lI + 1) (some (lRangeStart, lRangeCount + 1))
            else
              b.nackEntry lRangeStart lRangeCount :: b.nackScan count (lI + 1) (some (lI, 0))
      else
        match range with
        | none => b.nackScan count (lI + 1) none
        | some (lRangeStart, lRangeCount) =>
            b.nackEntry lRangeStart lRangeCount :: b.nackScan count (lI + 1) none

/-- `buildNack`: the message for the missing fragments, empty if none is. -/
def Bucket.buildNack (b : Bucket) : List UInt8 :=
  let lEntries := b.nackScan (b.mOfFragmentNo + 1) 0 none
  if lEntries = [] then []
  else
    let lEntries := lEntries.take 255
    let lHeader : FrameType0Nack :=
      { mFrameType := makeFrameTypeByte .type0 0
        mSubtype := type0SubtypeNack
        mNackCount := UInt8.ofNat lEntries.length }
    lHeader.bytes ++ lEntries.flatMap NackEntry.bytes

/-- All fragments of the bucket have been received. -/
def Bucket.complete (b : Bucket) : Bool := b.mFragmentCount = b.mOfFragmentNo + 1

/-- The clock readings of one pass: one by `processTimeouts`, one by
`processNacks`, and one by `calculateNackDelayUs` for each bucket it is
called for, here by delivery order. -/
structure PassClock where
  timeouts : ℤ
  nacks : ℤ
  nackDelay : ℤ → ℤ

/-- `x << n` on an `int64_t`, which keeps the low 64 bits. A shift by 64 or
more has no meaning in the source; it is 0 here. -/
def int64ShiftLeft (x : ℤ) (n : ℕ) : ℤ := Int.bmod (x * 2 ^ n) (2 ^ 64)

namespace Receiver

variable {B : BufferSize}

def calculateNackDelayUs (cfg : ReceiverConfig) (r : Receiver B) (b : Bucket) (now : ℤ) : ℤ :=
  let lBaseDelayUs : ℤ :=
    if cfg.mNackIntervalMs > 0 then (cfg.mNackIntervalMs.toNat : ℤ) * 1000
    else max 10000 (r.jitter.mJitterUs * 4)
  let lBackoffDelayUs := int64ShiftLeft lBaseDelayUs b.mNackCount.toNat
  let lRemainingUs := b.mTimeoutUs - now - 10000
  let lRemainingUs := if lRemainingUs < 0 then 0 else lRemainingUs
  min lBackoffDelayUs lRemainingUs

/-- One iteration of `processNacks`: the NACK sent for a bucket, if any. -/
def processNack (cfg : ReceiverConfig) (clk : PassClock) (r : Receiver B) (i : B.Index) :
    Receiver B × List (List UInt8) :=
  let b := r.mpBuckets i
  if b.complete then (r, [])
  else if b.mNackCount ≥ cfg.mMaxNackRetries then (r, [])
  else
    let lDelayUs := r.calculateNackDelayUs cfg b (clk.nackDelay b.mDeliveryOrder)
    let lTriggerTimeUs :=
      if b.mLastNackUs = 0 then b.mFirstArrivalUs + lDelayUs else b.mLastNackUs + lDelayUs
    if clk.nacks < lTriggerTimeUs then (r, [])
    else if b.buildNack = [] then (r, [])
    else
      ({ r with mStatistics := { r.mStatistics with mNacksSent := r.mStatistics.mNacksSent + 1 } }
        |>.setBucket i { b with mLastNackUs := clk.nacks, mNackCount := b.mNackCount + 1 },
        [b.buildNack])

/-- The loop of `processNacks` over the entries of the bucket map. -/
def processNackList (cfg : ReceiverConfig) (clk : PassClock) :
    List B.Index → Receiver B → Receiver B × List (List UInt8)
  | [], r => (r, [])
  | i :: is, r =>
      let step := r.processNack cfg clk i
      let rest := processNackList cfg clk is step.1
      (rest.1, step.2 ++ rest.2)

def processNacks (cfg : ReceiverConfig) (clk : PassClock) (r : Receiver B) :
    Receiver B × List (List UInt8) :=
  if cfg.mMaxNackRetries = 0 then (r, [])
  else processNackList cfg clk (r.mBucketMap.toList.map Prod.snd) r

end Receiver

/-! ### Delivery -/

/-- A frame handed over by `deliverFrame`, with the position of the bucket
it is moved out of. -/
structure Delivery (B : BufferSize) where
  bucket : B.Index
  frame : SuperFrame

/-- The frame `deliverFrame` completes from the bucket's metadata. -/
def Bucket.deliveredFrame (b : Bucket) (f : SuperFrame) : SuperFrame :=
  { f with
    mPayloadType := b.mPayloadType
    mPayloadCode := b.mPayloadCode
    mPts := b.mPts
    mDts := b.mDts
    mStreamId := b.mStreamId
    mSourceId := b.mSourceId
    mFlags := b.mFlags
    mSuperFrameNo := b.mSavedFrameNo
    mBroken := !b.complete }

/-- A bucket is due: complete, timed out, or past the head-of-line
deadline. -/
def Bucket.due (b : Bucket) (cfg : ReceiverConfig) (lNow : ℤ) : Bool :=
  b.complete || decide (b.mTimeoutUs ≤ lNow) ||
    (decide (cfg.mHolTimeoutMs > 0) &&
      decide (lNow - b.mFirstArrivalUs ≥ (cfg.mHolTimeoutMs.toNat : ℤ) * 1000))

namespace Receiver

variable {B : BufferSize}

/-- `deliverFrame`. The source dereferences `mpFrame`; a bucket without a
frame is outside its contract and delivers nothing here. -/
def deliverFrame (r : Receiver B) (i : B.Index) : Receiver B × List (Delivery B) :=
  let b := r.mpBuckets i
  match b.mpFrame with
  | none => (r, [])
  | some f =>
      let lpFrame := b.deliveredFrame f
      let stats :=
        if lpFrame.mBroken then
          { r.mStatistics with mBrokenFrames := r.mStatistics.mBrokenFrames + 1 }
        else { r.mStatistics with mCompleteFrames := r.mStatistics.mCompleteFrames + 1 }
      ({ r with mStatistics := stats, mBucketMap := r.mBucketMap.erase b.mDeliveryOrder }
        |>.setBucket i { b with mActive := false, mpFrame := none },
        [{ bucket := i, frame := lpFrame }])

def deliverFrames : List B.Index → Receiver B → Receiver B × List (Delivery B)
  | [], r => (r, [])
  | i :: is, r =>
      let step := r.deliverFrame i
      let rest := deliverFrames is step.1
      (rest.1, step.2 ++ rest.2)

/-- What a pass puts out: the NACKs first, then the frames. -/
inductive Output (B : BufferSize)
  | nack (data : List UInt8)
  | deliver (d : Delivery B)

def processTimeouts (cfg : ReceiverConfig) (clk : PassClock) (r : Receiver B) :
    Receiver B × List (Output B) :=
  let nacked := r.processNacks cfg clk
  let r := nacked.1
  let lToDeliver :=
    (r.mBucketMap.toList.map Prod.snd).filter fun i => (r.mpBuckets i).due cfg clk.timeouts
  let sorted := lToDeliver.insertionSort fun i j =>
    (r.mpBuckets i).mDeliveryOrder ≤ (r.mpBuckets j).mDeliveryOrder
  let delivered := deliverFrames sorted r
  (delivered.1, nacked.2.map Output.nack ++ delivered.2.map Output.deliver)

/-- `receive`. In run-to-completion mode a recognised packet is followed by
a pass. -/
def receive (cfg : ReceiverConfig) (r : Receiver B) (env : Surroundings) (clk : PassClock)
    (aData : List UInt8) (aSourceId : UInt8) : (Receiver B × List (Output B)) × Result :=
  let handled := r.dispatch cfg env aData aSourceId
  if aData = [] ∨ getFrameType (byteAt aData 0) = none then ((handled.1, []), handled.2)
  else if cfg.mMode = .runToCompletion then
    (handled.1.processTimeouts cfg clk, handled.2)
  else ((handled.1, []), handled.2)

/-- `poll`: a pass in run-to-completion mode, nothing otherwise. -/
def poll (cfg : ReceiverConfig) (clk : PassClock) (r : Receiver B) :
    Receiver B × List (Output B) :=
  if cfg.mMode = .runToCompletion then r.processTimeouts cfg clk else (r, [])

end Receiver

/-! ### Runs -/

/-- What happens to the handlers of a receiver: a packet is dispatched, or a
pass is made. -/
inductive Call
  | packet (env : Surroundings) (aData : List UInt8) (aSourceId : UInt8)
  | pass (clk : PassClock)

def Receiver.machine (B : BufferSize) (cfg : ReceiverConfig) :
    Machine (Receiver B) Call (Receiver.Output B) where
  step r
    | .packet env aData aSourceId => ((r.dispatch cfg env aData aSourceId).1, [])
    | .pass clk => r.processTimeouts cfg clk

/-- What happens to a receiver through its public interface and its worker
thread. -/
inductive Event
  | receive (env : Surroundings) (clk : PassClock) (aData : List UInt8) (aSourceId : UInt8)
  | poll (clk : PassClock)
  | worker (clk : PassClock)

/-- The receiver as a machine over its public interface; in threaded mode the
worker thread makes its passes in between. -/
def Receiver.system (B : BufferSize) (cfg : ReceiverConfig) :
    Machine (Receiver B) Event (Receiver.Output B) where
  step r
    | .receive env clk aData aSourceId => (r.receive cfg env clk aData aSourceId).1
    | .poll clk => r.poll cfg clk
    | .worker clk =>
        if cfg.mMode = .threaded then r.processTimeouts cfg clk else (r, [])

/-- The handler calls an event of the public interface comes down to. -/
def Event.calls (cfg : ReceiverConfig) : Event → List Call
  | .receive env clk aData aSourceId =>
      .packet env aData aSourceId ::
        if aData = [] ∨ getFrameType (byteAt aData 0) = none then []
        else if cfg.mMode = .runToCompletion then [.pass clk] else []
  | .poll clk => if cfg.mMode = .runToCompletion then [.pass clk] else []
  | .worker clk => if cfg.mMode = .threaded then [.pass clk] else []

/-- An event of the public interface does what its handler calls do. -/
theorem Receiver.system_step (B : BufferSize) (cfg : ReceiverConfig) (r : Receiver B)
    (e : Event) :
    (Receiver.system B cfg).step r e = (Receiver.machine B cfg).run r (e.calls cfg) := by
  cases e with
  | receive env clk aData aSourceId =>
      simp only [Receiver.system, Receiver.receive, Event.calls, Machine.run_cons,
        Receiver.machine]
      by_cases hknown : aData = [] ∨ getFrameType (byteAt aData 0) = none
      · simp [hknown]
      · by_cases hmode : cfg.mMode = .runToCompletion
        · simp [hknown, hmode, Machine.run_cons]
        · simp [hknown, hmode]
  | poll clk =>
      by_cases hmode : cfg.mMode = .runToCompletion <;>
        simp [Receiver.system, Receiver.poll, Event.calls, hmode, Machine.run_cons,
          Receiver.machine]
  | worker clk =>
      by_cases hmode : cfg.mMode = .threaded <;>
        simp [Receiver.system, Event.calls, hmode, Machine.run_cons, Receiver.machine]

/-- A run through the public interface is a run of handler calls. -/
theorem Receiver.system_run (B : BufferSize) (cfg : ReceiverConfig) (r : Receiver B)
    (es : List Event) :
    (Receiver.system B cfg).run r es =
      (Receiver.machine B cfg).run r (es.flatMap fun e => e.calls cfg) := by
  induction es generalizing r with
  | nil => rfl
  | cons e es ih =>
      rw [Machine.run_cons, List.flatMap_cons, Machine.run_append,
        Receiver.system_step, ih]

def Receiver.Output.delivery? {B : BufferSize} : Receiver.Output B → Option (Delivery B)
  | .nack _ => none
  | .deliver d => some d

def Receiver.deliveries {B : BufferSize} (os : List (Receiver.Output B)) : List (Delivery B) :=
  os.filterMap Receiver.Output.delivery?

namespace Receiver

variable {B : BufferSize}

theorem deliveries_append (os os' : List (Output B)) :
    deliveries (os ++ os') = deliveries os ++ deliveries os' := List.filterMap_append

theorem deliveries_nacks (lNacks : List (List UInt8)) :
    deliveries (lNacks.map (Output.nack (B := B))) = [] := by
  rw [deliveries, List.filterMap_map]
  exact List.filterMap_eq_nil_iff.mpr fun _ _ => rfl

theorem deliveries_delivers (ds : List (Delivery B)) :
    deliveries (ds.map Output.deliver) = ds := by
  rw [deliveries, List.filterMap_map]
  exact List.filterMap_some

end Receiver

/-! ### Sample inputs

For the witnesses and counterexamples of the modules that follow. -/

namespace Sample

def env : Surroundings := { nowUs := fun _ => 0, memalign := fun _ => true }

def clk : PassClock := { timeouts := 0, nacks := 0, nackDelay := fun _ => 0 }

def type1 (aSuperFrameNo : UInt16) (payload : List UInt8) : List UInt8 :=
  let lHeader : FrameType1 :=
    { mFrameType := makeFrameTypeByte .type1 0
      mStreamId := 0
      mSuperFrameNo := aSuperFrameNo
      mFragmentNo := 0
      mOfFragmentNo := 0 }
  lHeader.bytes ++ payload

def type2 (aSuperFrameNo mOfFragmentNo mType1PacketSize : UInt16) (payload : List UInt8) :
    List UInt8 :=
  let lHeader : FrameType2 :=
    { mFrameType := makeFrameTypeByte .type2 0
      mStreamId := 0
      mPayloadType := 0
      mSizeOfData := UInt16.ofNat payload.length
      mSuperFrameNo := aSuperFrameNo
      mOfFragmentNo := mOfFragmentNo
      mType1PacketSize := mType1PacketSize
      mPts := 0
      mDtsPtsDiff := 0
      mPayloadCode := 0 }
  lHeader.bytes ++ payload

theorem type1_shape (n : UInt16) (payload : List UInt8) :
    (type1 n payload).length = 8 + payload.length ∧
      getFrameType (byteAt (type1 n payload) 0) = some .type1 := by
  refine ⟨by simp [type1], ?_⟩
  exact getFrameType_makeFrameTypeByte .type1 0

end Sample

end ElasticFrame
