import ElasticFrame.Wire
import ElasticFrame.Lib.Block

/-!
The state of `efp::Receiver`: the circular array of buckets, the ordered map
of the active ones, the per-stream cache, and the counters that unwrap the
16-bit superframe number.

Sizes, fragment indices and counts are naturals: the checks of the handlers
keep them far below the width of their machine types. `int64_t` times and
delivery orders are integers. A superframe number stays a `UInt16`, since it
is compared and subtracted modulo `2^16`.
-/

namespace ElasticFrame

open Lib

/-- A valid `BUFFER_SIZE`: one less than a power of two that fits the
`uint16_t` template parameter, as the concept `ValidBufferSize` demands. -/
structure BufferSize where
  mask : ℕ
  single_bit : ∃ k ≤ 16, mask + 1 = 2 ^ k

/-- A position in the array of `BUFFER_SIZE + 1` buckets. -/
abbrev BufferSize.Index (B : BufferSize) := Fin (B.mask + 1)

/-- `aSuperFrameNo & BUFFER_SIZE`. -/
def BufferSize.index (B : BufferSize) (aSuperFrameNo : UInt16) : B.Index :=
  ⟨aSuperFrameNo.toNat &&& B.mask, Nat.lt_succ_of_le Nat.and_le_right⟩

/-- The default `BUFFER_SIZE` of 8191. -/
def BufferSize.default : BufferSize := ⟨8191, 13, by norm_num, by norm_num⟩

theorem BufferSize.val_index (B : BufferSize) (n : UInt16) :
    (B.index n).val = n.toNat % (B.mask + 1) := by
  obtain ⟨k, -, hk⟩ := B.single_bit
  have hmask : B.mask = 2 ^ k - 1 := by omega
  simp only [BufferSize.index, hk]
  rw [hmask, Nat.and_two_pow_sub_one_eq_mod]

theorem BufferSize.dvd (B : BufferSize) : B.mask + 1 ∣ 65536 := by
  obtain ⟨k, hk16, hk⟩ := B.single_bit
  rw [hk]
  exact pow_dvd_pow 2 hk16

/-! ### Frames and buckets -/

/-- `SuperFrame`: `mpData` is `none` for the null pointer. -/
structure SuperFrame where
  mpData : Option Block := none
  mSize : ℕ := 0
  mPayloadType : UInt8 := 0
  mPayloadCode : UInt32 := 0xFFFFFFFF
  mPts : UInt64 := 0xFFFFFFFFFFFFFFFF
  mDts : UInt64 := 0xFFFFFFFFFFFFFFFF
  mStreamId : UInt8 := 0
  mSourceId : UInt8 := 0
  mFlags : UInt8 := 0
  mSuperFrameNo : UInt16 := 0
  mBroken : Bool := true

/-- The allocating constructor; `memalign` tells whether `posix_memalign`
succeeds, and is not asked for a size of zero. -/
def SuperFrame.new (aAllocSize : ℕ) (memalign : Bool) : SuperFrame :=
  if aAllocSize > 0 ∧ memalign = true then
    { mpData := some (Block.alloc aAllocSize), mSize := aAllocSize }
  else {}

/-- `memcpy` of packet bytes to `mpData + dst`. -/
def SuperFrame.memcpy (f : SuperFrame) (dst : ℕ) (apData : List UInt8) (src len : ℕ) :
    SuperFrame :=
  { f with mpData := f.mpData.map fun b => b.memcpy dst apData src len }

/-- `memmove` inside `mpData`. -/
def SuperFrame.memmove (f : SuperFrame) (dst src len : ℕ) : SuperFrame :=
  { f with mpData := f.mpData.map fun b => b.memmove dst src len }

/-- The cells `[0, mSize)` the receive callback is handed. -/
def SuperFrame.data (f : SuperFrame) : List (Option UInt8) :=
  (List.range f.mSize).map fun i => f.mpData.bind fun b => b.cell i

/-- `INT64_MAX`, the delivery order of a bucket that was never opened. -/
def int64Max : ℤ := 2 ^ 63 - 1

/-- `Receiver::Bucket`. The bitset of received fragments is the finite set
of the indices of its set bits. -/
structure Bucket where
  mActive : Bool := false
  mPayloadType : UInt8 := 0
  mPayloadCode : UInt32 := 0xFFFFFFFF
  mSavedFrameNo : UInt16 := 0
  mTimeoutUs : ℤ := 0
  mFragmentCount : ℕ := 0
  mOfFragmentNo : ℕ := 0
  mDeliveryOrder : ℤ := int64Max
  mFragmentSize : ℕ := 0
  mType3Size : ℕ := 0
  mType2Size : ℕ := 0
  mPts : UInt64 := 0xFFFFFFFFFFFFFFFF
  mDts : UInt64 := 0xFFFFFFFFFFFFFFFF
  mStreamId : UInt8 := 0
  mSourceId : UInt8 := 0
  mFlags : UInt8 := 0
  mFirstArrivalUs : ℤ := 0
  mLastNackUs : ℤ := 0
  mNackCount : UInt8 := 0
  mReceivedFragments : Finset ℕ := ∅
  mpFrame : Option SuperFrame := none

/-- `Receiver::Stream`: the metadata the last Type2 of a stream carried. -/
structure Stream where
  mPayloadType : UInt8 := 0
  mPayloadCode : UInt32 := 0xFFFFFFFF

/-- The three counters of `recalculateSuperFrameNo`. -/
structure FrameNoTracking where
  mOldFrameNo : UInt16 := 0
  mFrameNoRecalc : ℤ := 0
  mFirstFrame : Bool := true
  deriving DecidableEq

structure JitterTracking where
  mJitterUs : ℤ := 10000
  mLastArrivalUs : ℤ := 0
  mExpectedIntervalUs : ℤ := 0

structure ReceiverStatistics where
  mFragmentsReceived : ℕ := 0
  mBundlesReceived : ℕ := 0
  mNacksSent : ℕ := 0
  mCompleteFrames : ℕ := 0
  mBrokenFrames : ℕ := 0
  mDuplicateFragments : ℕ := 0

inductive ReceiverMode
  | threaded
  | runToCompletion
  deriving DecidableEq, Repr

/-- The constructor arguments a receiver keeps. -/
structure ReceiverConfig where
  mTimeoutMs : UInt32 := 100
  mHolTimeoutMs : UInt32 := 0
  mMaxNackRetries : UInt8 := 3
  mNackIntervalMs : UInt32 := 0
  mMode : ReceiverMode := .threaded

/-- The checks of the constructor. The budget is a 32-bit product. -/
def ReceiverConfig.accepted (cfg : ReceiverConfig) : Bool :=
  !(decide (cfg.mHolTimeoutMs > 0) && decide (cfg.mHolTimeoutMs ≥ cfg.mTimeoutMs)) &&
    !(decide (cfg.mMaxNackRetries > 0) && decide (cfg.mNackIntervalMs > 0) &&
      decide (cfg.mNackIntervalMs * cfg.mMaxNackRetries.toUInt32 ≥ cfg.mTimeoutMs))

/-- The mutable state of a receiver with `BUFFER_SIZE + 1` buckets. The map
entries point into the array, so they are positions of it. -/
structure Receiver (B : BufferSize) where
  mpBuckets : B.Index → Bucket := fun _ => {}
  mBucketMap : Std.ExtTreeMap ℤ B.Index compare := ∅
  mStreams : UInt8 → Stream := fun _ => {}
  frameNo : FrameNoTracking := {}
  jitter : JitterTracking := {}
  mStatistics : ReceiverStatistics := {}

/-- The state the constructor leaves behind. -/
def Receiver.fresh (B : BufferSize) : Receiver B := {}

/-! ### Sequence unwrapping and jitter -/

/-- `recalculateSuperFrameNo`: the 16-bit difference to the previous number,
read as signed, is added to the unwrapped one. -/
def FrameNoTracking.recalculateSuperFrameNo (t : FrameNoTracking) (aFrameNo : UInt16) :
    FrameNoTracking :=
  if t.mFirstFrame then
    { mOldFrameNo := aFrameNo, mFrameNoRecalc := aFrameNo.toNat, mFirstFrame := false }
  else
    let lDelta : ℤ := (aFrameNo - t.mOldFrameNo).toInt16.toInt
    { t with mOldFrameNo := aFrameNo, mFrameNoRecalc := t.mFrameNoRecalc + lDelta }

/-- `updateJitter`: RFC 3550 moving averages. -/
def JitterTracking.updateJitter (j : JitterTracking) (aArrivalUs : ℤ) : JitterTracking :=
  if j.mLastArrivalUs > 0 then
    let lInterArrival := aArrivalUs - j.mLastArrivalUs
    let lSigned := lInterArrival - j.mExpectedIntervalUs
    let lDeviation := if lSigned < 0 then -lSigned else lSigned
    { mJitterUs := j.mJitterUs + (lDeviation - j.mJitterUs).tdiv 16
      mExpectedIntervalUs :=
        j.mExpectedIntervalUs + (lInterArrival - j.mExpectedIntervalUs).tdiv 16
      mLastArrivalUs := aArrivalUs }
  else { j with mLastArrivalUs := aArrivalUs }

namespace Receiver

variable {B : BufferSize}

def updateJitter (r : Receiver B) (aArrivalUs : ℤ) : Receiver B :=
  { r with jitter := r.jitter.updateJitter aArrivalUs }

def recalculateSuperFrameNo (r : Receiver B) (aFrameNo : UInt16) : Receiver B :=
  { r with frameNo := r.frameNo.recalculateSuperFrameNo aFrameNo }

/-- The order `recalculateSuperFrameNo` returns. -/
def unwrapped (r : Receiver B) (aFrameNo : UInt16) : ℤ :=
  (r.frameNo.recalculateSuperFrameNo aFrameNo).mFrameNoRecalc

def bucketOf (r : Receiver B) (aFrameNo : UInt16) : Bucket := r.mpBuckets (B.index aFrameNo)

def setBucket (r : Receiver B) (i : B.Index) (b : Bucket) : Receiver B :=
  { r with mpBuckets := Function.update r.mpBuckets i b }

def setStream (r : Receiver B) (aStreamId : UInt8) (s : Stream) : Receiver B :=
  { r with mStreams := Function.update r.mStreams aStreamId s }

/-- `mStatistics.mFragmentsReceived++`. -/
def countFragment (r : Receiver B) : Receiver B :=
  { r with mStatistics :=
      { r.mStatistics with mFragmentsReceived := r.mStatistics.mFragmentsReceived + 1 } }

/-- `mStatistics.mDuplicateFragments++`. -/
def countDuplicate (r : Receiver B) : Receiver B :=
  { r with mStatistics :=
      { r.mStatistics with mDuplicateFragments := r.mStatistics.mDuplicateFragments + 1 } }

/-- `mStatistics.mBundlesReceived++`. -/
def countBundle (r : Receiver B) : Receiver B :=
  { r with mStatistics :=
      { r.mStatistics with mBundlesReceived := r.mStatistics.mBundlesReceived + 1 } }

end Receiver

end ElasticFrame
