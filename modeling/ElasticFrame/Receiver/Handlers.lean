import ElasticFrame.Receiver.State

/-!
The packet handlers of `efp::Receiver`: `handleType0` to `handleType4` and
the dispatch of `receive`.

A handler is given what it reads from its surroundings: `now`, the clock
reading it takes, and `memalign`, whether the frame allocation it may make
succeeds. The throwing allocations of the standard containers are taken to
succeed, and so is locking.
-/

namespace ElasticFrame

open Lib

/-- What a handler stores in the bucket it opens. The three openers set the
same fields to values of their own. -/
structure Opening where
  mSourceId : UInt8
  mFrameType : UInt8
  mStreamId : UInt8
  mSuperFrameNo : UInt16
  /-- The bit set in `mReceivedFragments`. -/
  fragmentNo : ℕ
  mOfFragmentNo : ℕ
  mFragmentSize : ℕ
  mType3Size : ℕ
  mType2Size : ℕ
  mPts : UInt64
  mDts : UInt64
  mPayloadType : UInt8
  mPayloadCode : UInt32
  /-- The allocation and the copy: total size, destination offset, header
  and payload size of the packet. -/
  lTotalSize : ℕ
  lOffset : ℕ
  headerSize : ℕ
  lPayloadSize : ℕ

/-- The bucket an opener fills in, before it owns the new frame. -/
def Bucket.opened (b : Bucket) (cfg : ReceiverConfig) (now lOrder : ℤ) (o : Opening) : Bucket :=
  { b with
    mDeliveryOrder := lOrder
    mActive := true
    mSourceId := o.mSourceId
    mFlags := getFlags o.mFrameType
    mStreamId := o.mStreamId
    mSavedFrameNo := o.mSuperFrameNo
    mReceivedFragments := {o.fragmentNo}
    -- `mTimeoutMs * 1000` is a 32-bit product
    mTimeoutUs := now + (cfg.mTimeoutMs * 1000).toNat
    mFragmentCount := 1
    mOfFragmentNo := o.mOfFragmentNo
    mFragmentSize := o.mFragmentSize
    mType3Size := o.mType3Size
    mType2Size := o.mType2Size
    mPts := o.mPts
    mDts := o.mDts
    mFirstArrivalUs := now
    mLastNackUs := 0
    mNackCount := 0
    mPayloadType := o.mPayloadType
    mPayloadCode := o.mPayloadCode }

/-- The frame an opener allocates. -/
def Opening.frame (o : Opening) (memalign : Bool) (apData : List UInt8) : SuperFrame :=
  { SuperFrame.new o.lTotalSize memalign with mSize := o.lTotalSize }.memcpy
    o.lOffset apData o.headerSize o.lPayloadSize

/-- `mDts` from the header fields of a Type2. -/
def FrameType2.dts (h : FrameType2) : UInt64 :=
  if h.mDtsPtsDiff = 0xFFFFFFFF then 0xFFFFFFFFFFFFFFFF
  else h.mPts - h.mDtsPtsDiff.toUInt64

/-- A frame without data, which is what a failed allocation leaves. -/
def SuperFrame.isNull (f : SuperFrame) : Bool := f.mpData.isNone

namespace Receiver

variable {B : BufferSize}

/-- The tail of every opener: enter the bucket in the map, fill it in,
allocate the frame and copy the payload; undo map entry and activation when
the allocation fails. -/
def openBucket (cfg : ReceiverConfig) (r : Receiver B) (now : ℤ) (memalign : Bool)
    (lOrder : ℤ) (o : Opening) (apData : List UInt8) : Receiver B × Result :=
  let i := B.index o.mSuperFrameNo
  let lpBucket := (r.mpBuckets i).opened cfg now lOrder o
  let r := { r with mBucketMap := r.mBucketMap.insert lOrder i }.countFragment
  if (SuperFrame.new o.lTotalSize memalign).isNull then
    let lpBucket := { lpBucket with
      mpFrame := some (SuperFrame.new o.lTotalSize memalign), mActive := false }
    ({ r with mBucketMap := r.mBucketMap.erase lOrder }.setBucket i lpBucket,
      .memoryAllocationError)
  else
    (r.setBucket i { lpBucket with mpFrame := some (o.frame memalign apData) }, .ok)

/-! ### Type1 -/

/-- A fragment filling a slot of an active bucket. -/
def commitType1 (b : Bucket) (h : FrameType1) (apData : List UInt8) : Bucket :=
  let lPayloadSize := apData.length - FrameType1.sizeof
  let lOffset := b.mFragmentSize * h.mFragmentNo.toNat
  { b with
    mReceivedFragments := insert h.mFragmentNo.toNat b.mReceivedFragments
    mFragmentCount := b.mFragmentCount + 1
    mpFrame := b.mpFrame.map fun f => f.memcpy lOffset apData FrameType1.sizeof lPayloadSize }

/-- `handleType1` on a bucket that is not active. -/
def openType1 (cfg : ReceiverConfig) (r : Receiver B) (now : ℤ) (memalign : Bool)
    (h : FrameType1) (apData : List UInt8) (aSourceId : UInt8) : Receiver B × Result :=
  let lPayloadSize := apData.length - FrameType1.sizeof
  let lOrder := r.unwrapped h.mSuperFrameNo
  let r := r.recalculateSuperFrameNo h.mSuperFrameNo
  if lOrder = (r.bucketOf h.mSuperFrameNo).mDeliveryOrder then (r, .fragmentTooOld)
  else if lPayloadSize > maxSuperframeSize / (h.mOfFragmentNo.toNat + 1) then (r, .tooLargeFrame)
  else
    let lpStream := r.mStreams h.mStreamId
    r.openBucket cfg now memalign lOrder
      { mSourceId := aSourceId
        mFrameType := h.mFrameType
        mStreamId := h.mStreamId
        mSuperFrameNo := h.mSuperFrameNo
        fragmentNo := h.mFragmentNo.toNat
        mOfFragmentNo := h.mOfFragmentNo.toNat
        mFragmentSize := lPayloadSize
        mType3Size := 0
        mType2Size := 0
        mPts := 0xFFFFFFFFFFFFFFFF
        mDts := 0xFFFFFFFFFFFFFFFF
        mPayloadType := lpStream.mPayloadType
        mPayloadCode := lpStream.mPayloadCode
        lTotalSize := lPayloadSize * (h.mOfFragmentNo.toNat + 1)
        lOffset := lPayloadSize * h.mFragmentNo.toNat
        headerSize := FrameType1.sizeof
        lPayloadSize := lPayloadSize } apData

/-- `handleType1` on an active bucket. -/
def fillType1 (r : Receiver B) (h : FrameType1) (apData : List UInt8) (aSourceId : UInt8) :
    Receiver B × Result :=
  let lPayloadSize := apData.length - FrameType1.sizeof
  let lpBucket := r.bucketOf h.mSuperFrameNo
  if h.mSuperFrameNo ≠ lpBucket.mSavedFrameNo then (r, .bufferOutOfResources)
  else if h.mStreamId ≠ lpBucket.mStreamId ∨ aSourceId ≠ lpBucket.mSourceId then
    (r, .invalidParameter)
  else if h.mOfFragmentNo.toNat ≠ lpBucket.mOfFragmentNo ∨
      h.mFragmentNo.toNat > lpBucket.mOfFragmentNo then (r, .bufferOutOfBounds)
  else if h.mFragmentNo.toNat ∈ lpBucket.mReceivedFragments then
    (r.countDuplicate, .duplicateFragment)
  else if lPayloadSize ≠ lpBucket.mFragmentSize then (r, .frameSizeMismatch)
  else
    (r.countFragment.setBucket (B.index h.mSuperFrameNo) (commitType1 lpBucket h apData), .ok)

def handleType1 (cfg : ReceiverConfig) (r : Receiver B) (now : ℤ) (memalign : Bool)
    (apData : List UInt8) (aSourceId : UInt8) : Receiver B × Result :=
  if apData.length < FrameType1.sizeof then (r, .frameSizeMismatch)
  else
    let r := r.updateJitter now
    let lpHeader := FrameType1.read apData
    if lpHeader.mFragmentNo.toNat ≥ 8192 ∨ lpHeader.mOfFragmentNo.toNat ≥ 8192 then
      (r, .bufferOutOfBounds)
    else if lpHeader.mFragmentNo.toNat > lpHeader.mOfFragmentNo.toNat then
      (r, .bufferOutOfBounds)
    else if (r.bucketOf lpHeader.mSuperFrameNo).mActive = false then
      r.openType1 cfg now memalign lpHeader apData aSourceId
    else r.fillType1 lpHeader apData aSourceId

/-! ### Type2 -/

/-- Where a Type2 for an active bucket goes, and the frame size it implies:
behind the Type3 if one has been stored, else in the slot of its own. -/
def type2Offset (b : Bucket) (h : FrameType2) : ℕ :=
  if b.mType3Size > 0 then
    b.mFragmentSize * (h.mOfFragmentNo.toNat - 1) + b.mType3Size
  else h.mType1PacketSize.toNat * h.mOfFragmentNo.toNat

def type2ActualSize (b : Bucket) (h : FrameType2) : ℕ :=
  if b.mType3Size > 0 then
    b.mFragmentSize * (h.mOfFragmentNo.toNat - 1) + b.mType3Size + h.mSizeOfData.toNat
  else b.mFragmentSize * h.mOfFragmentNo.toNat + h.mSizeOfData.toNat

/-- The final fragment filling its slot of an active bucket. -/
def commitType2 (b : Bucket) (h : FrameType2) (apData : List UInt8) : Bucket :=
  { b with
    mReceivedFragments := insert h.mOfFragmentNo.toNat b.mReceivedFragments
    mFragmentCount := b.mFragmentCount + 1
    mPts := h.mPts
    mPayloadType := h.mPayloadType
    mPayloadCode := h.mPayloadCode
    mFlags := getFlags h.mFrameType
    mType2Size := h.mSizeOfData.toNat
    mDts := h.dts
    mpFrame := b.mpFrame.map fun f =>
      { f with mSize := type2ActualSize b h }.memcpy (type2Offset b h) apData
        FrameType2.sizeof h.mSizeOfData.toNat }

/-- `handleType2` on a bucket that is not active. -/
def openType2 (cfg : ReceiverConfig) (r : Receiver B) (now : ℤ) (memalign : Bool)
    (h : FrameType2) (apData : List UInt8) (aSourceId : UInt8) : Receiver B × Result :=
  let lOrder := r.unwrapped h.mSuperFrameNo
  let r := r.recalculateSuperFrameNo h.mSuperFrameNo
  if lOrder = (r.bucketOf h.mSuperFrameNo).mDeliveryOrder then (r, .fragmentTooOld)
  else
    let r := r.setStream h.mStreamId
      { mPayloadType := h.mPayloadType, mPayloadCode := h.mPayloadCode }
    r.openBucket cfg now memalign lOrder
      { mSourceId := aSourceId
        mFrameType := h.mFrameType
        mStreamId := h.mStreamId
        mSuperFrameNo := h.mSuperFrameNo
        fragmentNo := h.mOfFragmentNo.toNat
        mOfFragmentNo := h.mOfFragmentNo.toNat
        mFragmentSize := h.mType1PacketSize.toNat
        mType3Size := 0
        mType2Size := h.mSizeOfData.toNat
        mPts := h.mPts
        mDts := h.dts
        mPayloadType := h.mPayloadType
        mPayloadCode := h.mPayloadCode
        lTotalSize := h.mType1PacketSize.toNat * h.mOfFragmentNo.toNat + h.mSizeOfData.toNat
        lOffset := h.mType1PacketSize.toNat * h.mOfFragmentNo.toNat
        headerSize := FrameType2.sizeof
        lPayloadSize := h.mSizeOfData.toNat } apData

/-- `handleType2` on an active bucket. -/
def fillType2 (r : Receiver B) (h : FrameType2) (apData : List UInt8) (aSourceId : UInt8) :
    Receiver B × Result :=
  let lpBucket := r.bucketOf h.mSuperFrameNo
  if h.mSuperFrameNo ≠ lpBucket.mSavedFrameNo then (r, .bufferOutOfResources)
  else if h.mStreamId ≠ lpBucket.mStreamId ∨ aSourceId ≠ lpBucket.mSourceId then
    (r, .invalidParameter)
  else if h.mOfFragmentNo.toNat ≠ lpBucket.mOfFragmentNo then (r, .bufferOutOfBounds)
  else if h.mOfFragmentNo.toNat > 0 ∧
      h.mType1PacketSize.toNat ≠ lpBucket.mFragmentSize then (r, .frameSizeMismatch)
  else if h.mOfFragmentNo.toNat ∈ lpBucket.mReceivedFragments then
    (r.countDuplicate, .duplicateFragment)
  else if type2Offset lpBucket h + h.mSizeOfData.toNat >
      lpBucket.mFragmentSize * (lpBucket.mOfFragmentNo + 1) then (r, .bufferOutOfBounds)
  else
    ((r.countFragment.setBucket (B.index h.mSuperFrameNo)
        (commitType2 lpBucket h apData)).setStream h.mStreamId
        { mPayloadType := h.mPayloadType, mPayloadCode := h.mPayloadCode }, .ok)

def handleType2 (cfg : ReceiverConfig) (r : Receiver B) (now : ℤ) (memalign : Bool)
    (apData : List UInt8) (aSourceId : UInt8) : Receiver B × Result :=
  if apData.length < FrameType2.sizeof then (r, .frameSizeMismatch)
  else
    let r := r.updateJitter now
    let lpHeader := FrameType2.read apData
    if apData.length ≠ FrameType2.sizeof + lpHeader.mSizeOfData.toNat then
      (r, .frameSizeMismatch)
    else if lpHeader.mOfFragmentNo.toNat ≥ 8192 then (r, .bufferOutOfBounds)
    else if lpHeader.mOfFragmentNo.toNat > 0 ∧ lpHeader.mType1PacketSize.toNat = 0 then
      (r, .invalidParameter)
    else if lpHeader.mDtsPtsDiff ≠ 0xFFFFFFFF ∧
        lpHeader.mDtsPtsDiff.toUInt64 > lpHeader.mPts then (r, .invalidParameter)
    else if lpHeader.mType1PacketSize.toNat * lpHeader.mOfFragmentNo.toNat +
        lpHeader.mSizeOfData.toNat > maxSuperframeSize then (r, .tooLargeFrame)
    else if (r.bucketOf lpHeader.mSuperFrameNo).mActive = false then
      r.openType2 cfg now memalign lpHeader apData aSourceId
    else r.fillType2 lpHeader apData aSourceId

/-! ### Type3 -/

/-- The penultimate fragment filling its slot of an active bucket. A Type2
that is already there is moved up to it. -/
def commitType3 (b : Bucket) (h : FrameType3) (apData : List UInt8) : Bucket :=
  let lPayloadSize := apData.length - FrameType3.sizeof
  let of := h.mOfFragmentNo.toNat
  let lFragmentNo := of - 1
  let lOffset := b.mFragmentSize * lFragmentNo
  { b with
    mReceivedFragments := insert lFragmentNo b.mReceivedFragments
    mFragmentCount := b.mFragmentCount + 1
    mType3Size := lPayloadSize
    mpFrame := b.mpFrame.map fun f =>
      let f :=
        if of ∈ insert lFragmentNo b.mReceivedFragments ∧ b.mType2Size > 0 then
          let lOldOffset := b.mFragmentSize * of
          let lNewOffset := b.mFragmentSize * (of - 1) + lPayloadSize
          { f.memmove lNewOffset lOldOffset b.mType2Size with
            mSize := b.mFragmentSize * (of - 1) + lPayloadSize + b.mType2Size }
        else if of ∉ insert lFragmentNo b.mReceivedFragments then
          { f with mSize := b.mFragmentSize * (of - 1) + lPayloadSize }
        else f
      f.memcpy lOffset apData FrameType3.sizeof lPayloadSize }

/-- `handleType3` on a bucket that is not active. -/
def openType3 (cfg : ReceiverConfig) (r : Receiver B) (now : ℤ) (memalign : Bool)
    (h : FrameType3) (apData : List UInt8) (aSourceId : UInt8) : Receiver B × Result :=
  let lPayloadSize := apData.length - FrameType3.sizeof
  let lFragmentNo := h.mOfFragmentNo.toNat - 1
  let lOrder := r.unwrapped h.mSuperFrameNo
  let r := r.recalculateSuperFrameNo h.mSuperFrameNo
  if lOrder = (r.bucketOf h.mSuperFrameNo).mDeliveryOrder then (r, .fragmentTooOld)
  else
    let lpStream := r.mStreams h.mStreamId
    r.openBucket cfg now memalign lOrder
      { mSourceId := aSourceId
        mFrameType := h.mFrameType
        mStreamId := h.mStreamId
        mSuperFrameNo := h.mSuperFrameNo
        fragmentNo := lFragmentNo
        mOfFragmentNo := h.mOfFragmentNo.toNat
        mFragmentSize := h.mType1PacketSize.toNat
        mType3Size := lPayloadSize
        mType2Size := 0
        mPts := 0xFFFFFFFFFFFFFFFF
        mDts := 0xFFFFFFFFFFFFFFFF
        mPayloadType := lpStream.mPayloadType
        mPayloadCode := lpStream.mPayloadCode
        lTotalSize := h.mType1PacketSize.toNat * (h.mOfFragmentNo.toNat + 1)
        lOffset := h.mType1PacketSize.toNat * lFragmentNo
        headerSize := FrameType3.sizeof
        lPayloadSize := lPayloadSize } apData

/-- `handleType3` on an active bucket. -/
def fillType3 (r : Receiver B) (h : FrameType3) (apData : List UInt8) (aSourceId : UInt8) :
    Receiver B × Result :=
  let lPayloadSize := apData.length - FrameType3.sizeof
  let lFragmentNo := h.mOfFragmentNo.toNat - 1
  let lpBucket := r.bucketOf h.mSuperFrameNo
  if h.mSuperFrameNo ≠ lpBucket.mSavedFrameNo then (r, .bufferOutOfResources)
  else if h.mStreamId ≠ lpBucket.mStreamId ∨ aSourceId ≠ lpBucket.mSourceId then
    (r, .invalidParameter)
  else if h.mOfFragmentNo.toNat ≠ lpBucket.mOfFragmentNo ∨
      lFragmentNo > lpBucket.mOfFragmentNo then (r, .bufferOutOfBounds)
  else if h.mType1PacketSize.toNat ≠ lpBucket.mFragmentSize then (r, .frameSizeMismatch)
  else if lFragmentNo ∈ lpBucket.mReceivedFragments then
    (r.countDuplicate, .duplicateFragment)
  else if lpBucket.mFragmentSize * lFragmentNo + lPayloadSize >
      lpBucket.mFragmentSize * (lpBucket.mOfFragmentNo + 1) then (r, .bufferOutOfBounds)
  else
    (r.countFragment.setBucket (B.index h.mSuperFrameNo) (commitType3 lpBucket h apData), .ok)

def handleType3 (cfg : ReceiverConfig) (r : Receiver B) (now : ℤ) (memalign : Bool)
    (apData : List UInt8) (aSourceId : UInt8) : Receiver B × Result :=
  if apData.length < FrameType3.sizeof then (r, .frameSizeMismatch)
  else
    let r := r.updateJitter now
    let lpHeader := FrameType3.read apData
    if lpHeader.mOfFragmentNo.toNat ≥ 8192 ∨ lpHeader.mOfFragmentNo.toNat = 0 then
      (r, .bufferOutOfBounds)
    else if apData.length - FrameType3.sizeof > lpHeader.mType1PacketSize.toNat then
      (r, .bufferOutOfBounds)
    else if lpHeader.mType1PacketSize.toNat * (lpHeader.mOfFragmentNo.toNat + 1) >
        maxSuperframeSize then (r, .tooLargeFrame)
    else if (r.bucketOf lpHeader.mSuperFrameNo).mActive = false then
      r.openType3 cfg now memalign lpHeader apData aSourceId
    else r.fillType3 lpHeader apData aSourceId

end Receiver

/-! ### Type4 -/

/-- The member loop of `handleType4`, over any state a member is handled in:
member `lI` lies at `lOffset`, and the loop ends at the first member that is
not a Type1 frame or whose result is neither `ok` nor `duplicateFragment`. -/
def bundleLoop {σ : Type*} (handle : σ → ℕ → List UInt8 → σ × Result) (apData : List UInt8)
    (lFrameSize : ℕ) : (count lI lOffset : ℕ) → σ → σ × Result
  | 0, _, lOffset, s => (s, if lOffset = apData.length then .ok else .frameSizeMismatch)
  | count + 1, lI, lOffset, s =>
      if getFrameType (byteAt apData lOffset) ≠ some .type1 then (s, .invalidParameter)
      else
        let member := (apData.drop lOffset).take lFrameSize
        let lLastResult := (handle s lI member).2
        if lLastResult ≠ .ok ∧ lLastResult ≠ .duplicateFragment then
          ((handle s lI member).1, lLastResult)
        else bundleLoop handle apData lFrameSize count (lI + 1) (lOffset + lFrameSize)
          (handle s lI member).1

/-- What one call of a handler reads from its surroundings: the clock and
the outcome of the allocation, for each frame it handles. A packet that is
no bundle uses the first entry. -/
structure Surroundings where
  nowUs : ℕ → ℤ
  memalign : ℕ → Bool

namespace Receiver

variable {B : BufferSize}

/-- `handleType0`: signaling is passed through. -/
def handleType0 (r : Receiver B) : Receiver B × Result := (r, .ok)

def handleType4 (cfg : ReceiverConfig) (r : Receiver B) (env : Surroundings)
    (apData : List UInt8) (aSourceId : UInt8) : Receiver B × Result :=
  if apData.length < FrameType4.sizeof then (r, .frameSizeMismatch)
  else
    let lpHeader := FrameType4.read apData
    let count := lpHeader.mFrameCount.toNat
    if count = 0 then (r, .invalidParameter)
    else
      let r := r.countBundle
      let lPayloadSize := apData.length - FrameType4.sizeof
      if lPayloadSize % count ≠ 0 then (r, .frameSizeMismatch)
      else
        let lFrameSize := lPayloadSize / count
        if lFrameSize < FrameType1.sizeof then (r, .frameSizeMismatch)
        else
          bundleLoop
            (fun r lI member => r.handleType1 cfg (env.nowUs lI) (env.memalign lI) member aSourceId)
            apData lFrameSize count 0 FrameType4.sizeof r

/-- The switch of `receive` on the frame type. -/
def dispatch (cfg : ReceiverConfig) (r : Receiver B) (env : Surroundings)
    (aData : List UInt8) (aSourceId : UInt8) : Receiver B × Result :=
  if aData = [] then (r, .invalidParameter)
  else
    match getFrameType (byteAt aData 0) with
    | some .type0 => r.handleType0
    | some .type1 => r.handleType1 cfg (env.nowUs 0) (env.memalign 0) aData aSourceId
    | some .type2 => r.handleType2 cfg (env.nowUs 0) (env.memalign 0) aData aSourceId
    | some .type3 => r.handleType3 cfg (env.nowUs 0) (env.memalign 0) aData aSourceId
    | some .type4 => r.handleType4 cfg env aData aSourceId
    | none => (r, .invalidParameter)

end Receiver

end ElasticFrame
