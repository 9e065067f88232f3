import ElasticFrame.Receiver.Delivery

/-!
A common view of the three fragment handlers.

`handleType1`, `handleType2` and `handleType3` make the same decision in
different words: they check the packet on its own, then against the bucket
its superframe number selects, and then refuse it, open the bucket with it,
or fill a slot of the bucket with it. `Fragment` is a packet of one of the
three kinds, `Fragment.verdict` is the decision, which reads nothing but the
packet and that one bucket, and `Receiver.act` is what is done about it.
`handle_eq` says that the handlers are this decision followed by this
action; everything proved about the receiver is proved of the two.
-/

namespace ElasticFrame

open Lib

/-- A packet handed to one of the fragment handlers. -/
inductive Fragment
  | type1 (packet : List UInt8)
  | type2 (packet : List UInt8)
  | type3 (packet : List UInt8)
  deriving DecidableEq

/-- The fragment handler that a packet goes to. -/
def Fragment.ofPacket (data : List UInt8) : Option Fragment :=
  match getFrameType (byteAt data 0) with
  | some .type1 => some (.type1 data)
  | some .type2 => some (.type2 data)
  | some .type3 => some (.type3 data)
  | _ => none

namespace Fragment

def packet : Fragment → List UInt8
  | type1 d | type2 d | type3 d => d

def headerSize : Fragment → ℕ
  | type1 _ => FrameType1.sizeof
  | type2 _ => FrameType2.sizeof
  | type3 _ => FrameType3.sizeof

def payload (f : Fragment) : List UInt8 := f.packet.drop f.headerSize

def frameType : Fragment → UInt8
  | type1 d => (FrameType1.read d).mFrameType
  | type2 d => (FrameType2.read d).mFrameType
  | type3 d => (FrameType3.read d).mFrameType

def streamId : Fragment → UInt8
  | type1 d => (FrameType1.read d).mStreamId
  | type2 d => (FrameType2.read d).mStreamId
  | type3 d => (FrameType3.read d).mStreamId

def superFrameNo : Fragment → UInt16
  | type1 d => (FrameType1.read d).mSuperFrameNo
  | type2 d => (FrameType2.read d).mSuperFrameNo
  | type3 d => (FrameType3.read d).mSuperFrameNo

/-- The last fragment index the packet announces. -/
def ofFragmentNo : Fragment → ℕ
  | type1 d => (FrameType1.read d).mOfFragmentNo.toNat
  | type2 d => (FrameType2.read d).mOfFragmentNo.toNat
  | type3 d => (FrameType3.read d).mOfFragmentNo.toNat

/-- The index of the fragment: Type2 is the last one, Type3 the one before. -/
def slot : Fragment → ℕ
  | type1 d => (FrameType1.read d).mFragmentNo.toNat
  | type2 d => (FrameType2.read d).mOfFragmentNo.toNat
  | type3 d => (FrameType3.read d).mOfFragmentNo.toNat - 1

/-- The payload size of the Type1 fragments, as far as this packet tells. -/
def type1Size : Fragment → ℕ
  | type1 d => d.length - FrameType1.sizeof
  | type2 d => (FrameType2.read d).mType1PacketSize.toNat
  | type3 d => (FrameType3.read d).mType1PacketSize.toNat

def size : Fragment → ℕ
  | type1 d => d.length - FrameType1.sizeof
  | type2 d => (FrameType2.read d).mSizeOfData.toNat
  | type3 d => d.length - FrameType3.sizeof

/-- The allocation made when the packet opens a bucket. -/
def totalSize (f : Fragment) : ℕ :=
  match f with
  | type1 _ | type3 _ => f.type1Size * (f.ofFragmentNo + 1)
  | type2 _ => f.type1Size * f.ofFragmentNo + f.size

def pts : Fragment → UInt64
  | type2 d => (FrameType2.read d).mPts
  | _ => 0xFFFFFFFFFFFFFFFF

def dts : Fragment → UInt64
  | type2 d => (FrameType2.read d).dts
  | _ => 0xFFFFFFFFFFFFFFFF

/-- The stream metadata after the packet: its own for a Type2, the cached
one otherwise. -/
def stream (cached : Stream) : Fragment → Stream
  | type2 d =>
      { mPayloadType := (FrameType2.read d).mPayloadType
        mPayloadCode := (FrameType2.read d).mPayloadCode }
  | _ => cached

def type2Size : Fragment → ℕ
  | type2 d => (FrameType2.read d).mSizeOfData.toNat
  | _ => 0

def type3Size : Fragment → ℕ
  | type3 d => d.length - FrameType3.sizeof
  | _ => 0

/-- What the packet stores in a bucket it opens. -/
def opening (f : Fragment) (aSourceId : UInt8) (cached : Stream) : Opening where
  mSourceId := aSourceId
  mFrameType := f.frameType
  mStreamId := f.streamId
  mSuperFrameNo := f.superFrameNo
  fragmentNo := f.slot
  mOfFragmentNo := f.ofFragmentNo
  mFragmentSize := f.type1Size
  mType3Size := f.type3Size
  mType2Size := f.type2Size
  mPts := f.pts
  mDts := f.dts
  mPayloadType := (f.stream cached).mPayloadType
  mPayloadCode := (f.stream cached).mPayloadCode
  lTotalSize := f.totalSize
  lOffset := f.type1Size * f.slot
  headerSize := f.headerSize
  lPayloadSize := f.size

/-- The checks that read the packet alone. -/
def check (f : Fragment) : Option Result :=
  match f with
  | type1 _ =>
      if f.slot ≥ 8192 ∨ f.ofFragmentNo ≥ 8192 then some .bufferOutOfBounds
      else if f.slot > f.ofFragmentNo then some .bufferOutOfBounds
      else none
  | type2 d =>
      if d.length ≠ f.headerSize + f.size then some .frameSizeMismatch
      else if f.ofFragmentNo ≥ 8192 then some .bufferOutOfBounds
      else if f.ofFragmentNo > 0 ∧ f.type1Size = 0 then some .invalidParameter
      else if (FrameType2.read d).mDtsPtsDiff ≠ 0xFFFFFFFF ∧
          (FrameType2.read d).mDtsPtsDiff.toUInt64 > (FrameType2.read d).mPts then
        some .invalidParameter
      else if f.totalSize > maxSuperframeSize then some .tooLargeFrame
      else none
  | type3 _ =>
      if f.ofFragmentNo ≥ 8192 ∨ f.ofFragmentNo = 0 then some .bufferOutOfBounds
      else if f.size > f.type1Size then some .bufferOutOfBounds
      else if f.totalSize > maxSuperframeSize then some .tooLargeFrame
      else none

/-- Only `handleType1` checks the total size after it has unwrapped the
superframe number. -/
def oversized (f : Fragment) : Bool :=
  match f with
  | type1 _ => decide (f.size > maxSuperframeSize / (f.ofFragmentNo + 1))
  | _ => false

/-- The checks against an active bucket. -/
def clash (f : Fragment) (aSourceId : UInt8) (b : Bucket) : Option Result :=
  if f.superFrameNo ≠ b.mSavedFrameNo then some .bufferOutOfResources
  else if f.streamId ≠ b.mStreamId ∨ aSourceId ≠ b.mSourceId then some .invalidParameter
  else
    match f with
    | type1 _ =>
        if f.ofFragmentNo ≠ b.mOfFragmentNo ∨ f.slot > b.mOfFragmentNo then
          some .bufferOutOfBounds
        else if f.slot ∈ b.mReceivedFragments then some .duplicateFragment
        else if f.size ≠ b.mFragmentSize then some .frameSizeMismatch
        else none
    | type2 d =>
        if f.ofFragmentNo ≠ b.mOfFragmentNo then some .bufferOutOfBounds
        else if f.ofFragmentNo > 0 ∧ f.type1Size ≠ b.mFragmentSize then some .frameSizeMismatch
        else if f.slot ∈ b.mReceivedFragments then some .duplicateFragment
        else if Receiver.type2Offset b (FrameType2.read d) + f.size >
            b.mFragmentSize * (b.mOfFragmentNo + 1) then some .bufferOutOfBounds
        else none
    | type3 _ =>
        if f.ofFragmentNo ≠ b.mOfFragmentNo ∨ f.slot > b.mOfFragmentNo then
          some .bufferOutOfBounds
        else if f.type1Size ≠ b.mFragmentSize then some .frameSizeMismatch
        else if f.slot ∈ b.mReceivedFragments then some .duplicateFragment
        else if b.mFragmentSize * f.slot + f.size >
            b.mFragmentSize * (b.mOfFragmentNo + 1) then some .bufferOutOfBounds
        else none

end Fragment

/-- What a handler decides to do with a packet. -/
inductive Verdict
  /-- The packet is shorter than its header. -/
  | short
  /-- A check fails before anything but the jitter has changed. -/
  | reject (res : Result)
  /-- The slot is taken already. -/
  | duplicate
  /-- The number has been unwrapped, then the packet is refused. -/
  | stale (res : Result)
  /-- The packet opens the bucket. -/
  | «open»
  /-- The packet fills a slot of the bucket. -/
  | fill
  deriving DecidableEq

/-- The decision on a packet, from the bucket it selects and the order its
superframe number unwraps to. -/
def Fragment.verdict (f : Fragment) (aSourceId : UInt8) (b : Bucket) (lOrder : ℤ) : Verdict :=
  if f.packet.length < f.headerSize then .short
  else
    match f.check with
    | some res => .reject res
    | none =>
        if b.mActive = false then
          if lOrder = b.mDeliveryOrder then .stale .fragmentTooOld
          else if f.oversized then .stale .tooLargeFrame
          else .open
        else
          match f.clash aSourceId b with
          | some .duplicateFragment => .duplicate
          | some res => .reject res
          | none => .fill

/-- The bucket after the packet has filled its slot. -/
def Bucket.fill (b : Bucket) : Fragment → Bucket
  | .type1 d => Receiver.commitType1 b (FrameType1.read d) d
  | .type2 d => Receiver.commitType2 b (FrameType2.read d) d
  | .type3 d => Receiver.commitType3 b (FrameType3.read d) d

namespace Receiver

variable {B : BufferSize}

def handle (cfg : ReceiverConfig) (r : Receiver B) (now : ℤ) (memalign : Bool)
    (aSourceId : UInt8) : Fragment → Receiver B × Result
  | .type1 d => r.handleType1 cfg now memalign d aSourceId
  | .type2 d => r.handleType2 cfg now memalign d aSourceId
  | .type3 d => r.handleType3 cfg now memalign d aSourceId

/-- A Type2 updates the stream cache. -/
def cacheStream (r : Receiver B) (f : Fragment) : Receiver B :=
  match f with
  | .type2 _ => r.setStream f.streamId (f.stream {})
  | _ => r

def act (cfg : ReceiverConfig) (r : Receiver B) (now : ℤ) (memalign : Bool)
    (aSourceId : UInt8) (f : Fragment) : Verdict → Receiver B × Result
  | .short => (r, .frameSizeMismatch)
  | .reject res => (r.updateJitter now, res)
  | .duplicate => ((r.updateJitter now).countDuplicate, .duplicateFragment)
  | .stale res => ((r.updateJitter now).recalculateSuperFrameNo f.superFrameNo, res)
  | .open =>
      (((r.updateJitter now).recalculateSuperFrameNo f.superFrameNo).cacheStream f).openBucket
        cfg now memalign (r.unwrapped f.superFrameNo)
        (f.opening aSourceId (r.mStreams f.streamId)) f.packet
  | .fill =>
      (((r.updateJitter now).countFragment.setBucket (B.index f.superFrameNo)
        ((r.bucketOf f.superFrameNo).fill f)).cacheStream f, .ok)

theorem act_short (cfg : ReceiverConfig) (r : Receiver B) (now : ℤ) (memalign : Bool)
    (aSourceId : UInt8) (f : Fragment) :
    r.act cfg now memalign aSourceId f .short = (r, .frameSizeMismatch) := rfl

theorem act_reject (cfg : ReceiverConfig) (r : Receiver B) (now : ℤ) (memalign : Bool)
    (aSourceId : UInt8) (f : Fragment) (res : Result) :
    r.act cfg now memalign aSourceId f (.reject res) = (r.updateJitter now, res) := rfl

@[simp] theorem bucketOf_updateJitter (r : Receiver B) (now : ℤ) (n : UInt16) :
    (r.updateJitter now).bucketOf n = r.bucketOf n := rfl

@[simp] theorem bucketOf_recalculateSuperFrameNo (r : Receiver B) (m n : UInt16) :
    (r.recalculateSuperFrameNo m).bucketOf n = r.bucketOf n := rfl

@[simp] theorem unwrapped_updateJitter (r : Receiver B) (now : ℤ) (n : UInt16) :
    (r.updateJitter now).unwrapped n = r.unwrapped n := rfl

theorem openType1_eq (cfg : ReceiverConfig) (r : Receiver B) (now : ℤ) (memalign : Bool)
    (d : List UInt8) (aSourceId : UInt8) :
    (r.updateJitter now).openType1 cfg now memalign (FrameType1.read d) d aSourceId =
      r.act cfg now memalign aSourceId (.type1 d)
        (if r.unwrapped (FrameType1.read d).mSuperFrameNo =
            (r.bucketOf (FrameType1.read d).mSuperFrameNo).mDeliveryOrder then
          .stale .fragmentTooOld
        else if (Fragment.type1 d).oversized then .stale .tooLargeFrame else .open) := by
  simp only [openType1, unwrapped_updateJitter, bucketOf_updateJitter,
    bucketOf_recalculateSuperFrameNo]
  by_cases hold : r.unwrapped (FrameType1.read d).mSuperFrameNo =
      (r.bucketOf (FrameType1.read d).mSuperFrameNo).mDeliveryOrder
  · simp only [hold, if_true]
    rfl
  · by_cases hlarge : d.length - FrameType1.sizeof >
        maxSuperframeSize / ((FrameType1.read d).mOfFragmentNo.toNat + 1)
    · simp only [hold, hlarge, if_false, if_true, Fragment.oversized, Fragment.size,
        Fragment.ofFragmentNo, decide_true]
      rfl
    · simp only [hold, hlarge, if_false, Fragment.oversized, Fragment.size,
        Fragment.ofFragmentNo, decide_false, Bool.false_eq_true]
      rfl

theorem fillType1_eq (cfg : ReceiverConfig) (r : Receiver B) (now : ℤ) (memalign : Bool)
    (d : List UInt8) (aSourceId : UInt8) :
    (r.updateJitter now).fillType1 (FrameType1.read d) d aSourceId =
      r.act cfg now memalign aSourceId (.type1 d)
        (match (Fragment.type1 d).clash aSourceId
            (r.bucketOf (FrameType1.read d).mSuperFrameNo) with
          | some .duplicateFragment => .duplicate
          | some res => .reject res
          | none => .fill) := by
  simp only [fillType1, Fragment.clash, bucketOf_updateJitter, Fragment.superFrameNo,
    Fragment.streamId, Fragment.slot, Fragment.size, Fragment.ofFragmentNo]
  grind [act, cacheStream, Bucket.fill, Fragment.superFrameNo, Fragment.streamId,
    Fragment.stream]

theorem handleType1_eq (cfg : ReceiverConfig) (r : Receiver B) (now : ℤ) (memalign : Bool)
    (d : List UInt8) (aSourceId : UInt8) :
    r.handleType1 cfg now memalign d aSourceId =
      r.act cfg now memalign aSourceId (.type1 d) ((Fragment.type1 d).verdict aSourceId
        (r.bucketOf (FrameType1.read d).mSuperFrameNo)
        (r.unwrapped (FrameType1.read d).mSuperFrameNo)) := by
  simp only [handleType1, Fragment.verdict, Fragment.check, Fragment.packet,
    Fragment.headerSize, Fragment.slot, Fragment.ofFragmentNo, bucketOf_updateJitter, openType1_eq,
    fillType1_eq cfg r now memalign]
  grind [act_short, act_reject]

theorem openType2_eq (cfg : ReceiverConfig) (r : Receiver B) (now : ℤ) (memalign : Bool)
    (d : List UInt8) (aSourceId : UInt8) :
    (r.updateJitter now).openType2 cfg now memalign (FrameType2.read d) d aSourceId =
      r.act cfg now memalign aSourceId (.type2 d)
        (if r.unwrapped (FrameType2.read d).mSuperFrameNo =
            (r.bucketOf (FrameType2.read d).mSuperFrameNo).mDeliveryOrder then
          .stale .fragmentTooOld
        else if (Fragment.type2 d).oversized then .stale .tooLargeFrame else .open) := by
  simp only [openType2, unwrapped_updateJitter, bucketOf_updateJitter,
    bucketOf_recalculateSuperFrameNo, Fragment.oversized, Bool.false_eq_true, if_false]
  by_cases hold : r.unwrapped (FrameType2.read d).mSuperFrameNo =
      (r.bucketOf (FrameType2.read d).mSuperFrameNo).mDeliveryOrder
  · simp only [hold, if_true]
    rfl
  · simp only [hold, if_false]
    rfl

theorem fillType2_eq (cfg : ReceiverConfig) (r : Receiver B) (now : ℤ) (memalign : Bool)
    (d : List UInt8) (aSourceId : UInt8) :
    (r.updateJitter now).fillType2 (FrameType2.read d) d aSourceId =
      r.act cfg now memalign aSourceId (.type2 d)
        (match (Fragment.type2 d).clash aSourceId
            (r.bucketOf (FrameType2.read d).mSuperFrameNo) with
          | some .duplicateFragment => .duplicate
          | some res => .reject res
          | none => .fill) := by
  simp only [fillType2, Fragment.clash, bucketOf_updateJitter, Fragment.superFrameNo,
    Fragment.streamId, Fragment.slot, Fragment.size, Fragment.ofFragmentNo, Fragment.type1Size]
  grind [act, cacheStream, Bucket.fill, Fragment.superFrameNo, Fragment.streamId,
    Fragment.stream]

theorem handleType2_eq (cfg : ReceiverConfig) (r : Receiver B) (now : ℤ) (memalign : Bool)
    (d : List UInt8) (aSourceId : UInt8) :
    r.handleType2 cfg now memalign d aSourceId =
      r.act cfg now memalign aSourceId (.type2 d) ((Fragment.type2 d).verdict aSourceId
        (r.bucketOf (FrameType2.read d).mSuperFrameNo)
        (r.unwrapped (FrameType2.read d).mSuperFrameNo)) := by
  simp only [handleType2, Fragment.verdict, Fragment.check, Fragment.packet,
    Fragment.headerSize, Fragment.size, Fragment.type1Size, Fragment.totalSize,
    Fragment.ofFragmentNo, bucketOf_updateJitter, openType2_eq,
    fillType2_eq cfg r now memalign]
  grind [act_short, act_reject]

theorem openType3_eq (cfg : ReceiverConfig) (r : Receiver B) (now : ℤ) (memalign : Bool)
    (d : List UInt8) (aSourceId : UInt8) :
    (r.updateJitter now).openType3 cfg now memalign (FrameType3.read d) d aSourceId =
      r.act cfg now memalign aSourceId (.type3 d)
        (if r.unwrapped (FrameType3.read d).mSuperFrameNo =
            (r.bucketOf (FrameType3.read d).mSuperFrameNo).mDeliveryOrder then
          .stale .fragmentTooOld
        else if (Fragment.type3 d).oversized then .stale .tooLargeFrame else .open) := by
  simp only [openType3, unwrapped_updateJitter, bucketOf_updateJitter,
    bucketOf_recalculateSuperFrameNo, Fragment.oversized, Bool.false_eq_true, if_false]
  by_cases hold : r.unwrapped (FrameType3.read d).mSuperFrameNo =
      (r.bucketOf (FrameType3.read d).mSuperFrameNo).mDeliveryOrder
  · simp only [hold, if_true]
    rfl
  · simp only [hold, if_false]
    rfl

theorem fillType3_eq (cfg : ReceiverConfig) (r : Receiver B) (now : ℤ) (memalign : Bool)
    (d : List UInt8) (aSourceId : UInt8) :
    (r.updateJitter now).fillType3 (FrameType3.read d) d aSourceId =
      r.act cfg now memalign aSourceId (.type3 d)
        (match (Fragment.type3 d).clash aSourceId
            (r.bucketOf (FrameType3.read d).mSuperFrameNo) with
          | some .duplicateFragment => .duplicate
          | some res => .reject res
          | none => .fill) := by
  simp only [fillType3, Fragment.clash, bucketOf_updateJitter, Fragment.superFrameNo,
    Fragment.streamId, Fragment.slot, Fragment.size, Fragment.ofFragmentNo, Fragment.type1Size]
  grind [act, cacheStream, Bucket.fill, Fragment.superFrameNo, Fragment.streamId,
    Fragment.stream]

theorem handleType3_eq (cfg : ReceiverConfig) (r : Receiver B) (now : ℤ) (memalign : Bool)
    (d : List UInt8) (aSourceId : UInt8) :
    r.handleType3 cfg now memalign d aSourceId =
      r.act cfg now memalign aSourceId (.type3 d) ((Fragment.type3 d).verdict aSourceId
        (r.bucketOf (FrameType3.read d).mSuperFrameNo)
        (r.unwrapped (FrameType3.read d).mSuperFrameNo)) := by
  simp only [handleType3, Fragment.verdict, Fragment.check, Fragment.packet,
    Fragment.headerSize, Fragment.size, Fragment.type1Size, Fragment.totalSize,
    Fragment.ofFragmentNo, bucketOf_updateJitter, openType3_eq,
    fillType3_eq cfg r now memalign]
  grind [act_short, act_reject]

/-- Every handler is the decision on its packet followed by the action. -/
theorem handle_eq (cfg : ReceiverConfig) (r : Receiver B) (now : ℤ) (memalign : Bool)
    (aSourceId : UInt8) (f : Fragment) :
    r.handle cfg now memalign aSourceId f =
      r.act cfg now memalign aSourceId f
        (f.verdict aSourceId (r.bucketOf f.superFrameNo) (r.unwrapped f.superFrameNo)) := by
  cases f with
  | type1 d => exact r.handleType1_eq cfg now memalign d aSourceId
  | type2 d => exact r.handleType2_eq cfg now memalign d aSourceId
  | type3 d => exact r.handleType3_eq cfg now memalign d aSourceId

theorem dispatch_of_ofPacket (cfg : ReceiverConfig) (r : Receiver B)
    (env : Surroundings) {data : List UInt8} (src : UInt8) {f : Fragment}
    (h : Fragment.ofPacket data = some f) :
    r.dispatch cfg env data src = r.handle cfg (env.nowUs 0) (env.memalign 0) src f := by
  have hne : data ≠ [] := by
    rintro rfl
    cases h
  rw [dispatch, if_neg hne]
  rw [Fragment.ofPacket] at h
  split at h <;> rename_i htype
  · obtain rfl := Option.some.inj h
    rw [htype]
    rfl
  · obtain rfl := Option.some.inj h
    rw [htype]
    rfl
  · obtain rfl := Option.some.inj h
    rw [htype]
    rfl
  · cases h

end Receiver

end ElasticFrame
