import ElasticFrame.Receiver.Fragment

/-!
What a decision says about the packet and the bucket, and what an action
leaves behind, component by component. The proofs about the receiver cite
these and never unfold a handler.
-/

namespace ElasticFrame

open Lib

/-! ### What a packet that passes its own checks looks like -/

namespace Fragment

/-- The packet passes the checks that read it alone. -/
structure Admissible (f : Fragment) : Prop where
  length_packet : f.packet.length = f.headerSize + f.size
  of_lt : f.ofFragmentNo < 8192
  slot_le : f.slot ≤ f.ofFragmentNo
  /-- The region the payload goes to when the packet opens a bucket lies in
  the allocation it makes. -/
  placed : f.type1Size * f.slot + f.size ≤ f.totalSize

theorem length_payload {f : Fragment} (h : f.Admissible) : f.payload.length = f.size := by
  rw [payload, List.length_drop, h.length_packet]
  omega

theorem admissible_of_check {f : Fragment} (hlen : ¬ f.packet.length < f.headerSize)
    (hcheck : f.check = none) : f.Admissible := by
  cases f with
  | type1 d =>
      simp only [check, packet, headerSize] at hcheck hlen
      split_ifs at hcheck with hbits hslot
      refine ⟨by simp only [packet, headerSize, size]; omega, by omega, by omega, ?_⟩
      have hmul := Nat.mul_le_mul_left (type1 d).type1Size
        (show (type1 d).slot + 1 ≤ (type1 d).ofFragmentNo + 1 by omega)
      rw [Nat.mul_succ] at hmul
      exact hmul
  | type2 d =>
      simp only [check] at hcheck
      split_ifs at hcheck with hsize hof hzero hdts htotal
      exact ⟨not_not.mp hsize, by omega, le_refl _, le_refl _⟩
  | type3 d =>
      simp only [check, packet, headerSize] at hcheck hlen
      split_ifs at hcheck with hof hsize htotal
      have hslot : (type3 d).slot + 1 = (type3 d).ofFragmentNo := by
        simp only [slot, ofFragmentNo] at hof ⊢
        omega
      refine ⟨by simp only [packet, headerSize, size]; omega, by omega, by omega, ?_⟩
      have hmul := Nat.mul_le_mul_left (type3 d).type1Size
        (show (type3 d).slot + 1 ≤ (type3 d).ofFragmentNo + 1 by omega)
      rw [Nat.mul_succ] at hmul
      have hfit : (type3 d).size ≤ (type3 d).type1Size := by omega
      calc (type3 d).type1Size * (type3 d).slot + (type3 d).size
          ≤ (type3 d).type1Size * (type3 d).slot + (type3 d).type1Size := by omega
        _ ≤ (type3 d).type1Size * ((type3 d).ofFragmentNo + 1) := hmul

theorem type3_checked {d : List UInt8} (hcheck : (type3 d).check = none) :
    0 < (type3 d).ofFragmentNo ∧ (type3 d).size ≤ (type3 d).type1Size := by
  simp only [check] at hcheck
  split_ifs at hcheck with hof hsize htotal
  omega

/-- The packet fits the active bucket: same superframe, stream and source,
same fragment count, a free slot. -/
structure Fits (f : Fragment) (aSourceId : UInt8) (b : Bucket) : Prop where
  superFrameNo : f.superFrameNo = b.mSavedFrameNo
  streamId : f.streamId = b.mStreamId
  sourceId : aSourceId = b.mSourceId
  ofFragmentNo : f.ofFragmentNo = b.mOfFragmentNo
  slot : f.slot ∉ b.mReceivedFragments
  /-- The Type1 size agrees; with a single fragment a Type2 need not say. -/
  type1Size : 0 < f.ofFragmentNo ∨ (∀ d, f ≠ type2 d) → f.type1Size = b.mFragmentSize
  /-- A Type2 ends inside `mFragmentSize * (mOfFragmentNo + 1)`. -/
  type2Bound : ∀ d, f = type2 d →
    Receiver.type2Offset b (FrameType2.read d) + f.size ≤
      b.mFragmentSize * (b.mOfFragmentNo + 1)

theorem fits_of_clash {f : Fragment} {aSourceId : UInt8} {b : Bucket}
    (h : f.clash aSourceId b = none) : f.Fits aSourceId b := by
  cases f with
  | type1 d =>
      simp only [clash] at h
      split_ifs at h with hno hsrc hof hslot hsize
      have hstream := not_or.mp hsrc
      have hof' := not_or.mp hof
      exact ⟨not_not.mp hno, not_not.mp hstream.1, not_not.mp hstream.2, not_not.mp hof'.1,
        hslot, fun _ => not_not.mp hsize, by intro d hd; cases hd⟩
  | type2 d =>
      simp only [clash] at h
      split_ifs at h with hno hsrc hof hsize hslot hbound
      have hstream := not_or.mp hsrc
      refine ⟨not_not.mp hno, not_not.mp hstream.1, not_not.mp hstream.2, not_not.mp hof,
        hslot, ?_, ?_⟩
      · rintro (hpos | hne)
        · by_contra hne
          exact hsize ⟨hpos, hne⟩
        · exact absurd rfl (hne d)
      · intro d' hd
        cases hd
        omega
  | type3 d =>
      simp only [clash] at h
      split_ifs at h with hno hsrc hof hsize hslot hbound
      have hstream := not_or.mp hsrc
      have hof' := not_or.mp hof
      exact ⟨not_not.mp hno, not_not.mp hstream.1, not_not.mp hstream.2, not_not.mp hof'.1,
        hslot, fun _ => not_not.mp hsize, by intro d hd; cases hd⟩

/-! ### What a decision says -/

theorem verdict_cases (f : Fragment) (src : UInt8) (b : Bucket) (o : ℤ) :
    (f.packet.length < f.headerSize ∧ f.verdict src b o = .short) ∨
    (∃ res, f.check = some res ∧ f.verdict src b o = .reject res) ∨
    (f.Admissible ∧ f.check = none ∧ b.mActive = false ∧
      (o = b.mDeliveryOrder ∧ f.verdict src b o = .stale .fragmentTooOld ∨
        o ≠ b.mDeliveryOrder ∧ f.oversized = true ∧
          f.verdict src b o = .stale .tooLargeFrame ∨
        o ≠ b.mDeliveryOrder ∧ f.oversized = false ∧ f.verdict src b o = .open)) ∨
    (f.Admissible ∧ f.check = none ∧ b.mActive = true ∧
      (f.clash src b = some .duplicateFragment ∧ f.verdict src b o = .duplicate ∨
        (∃ res, f.clash src b = some res ∧ f.verdict src b o = .reject res) ∨
        f.Fits src b ∧ f.verdict src b o = .fill)) := by
  by_cases hlen : f.packet.length < f.headerSize
  · exact .inl ⟨hlen, by rw [verdict, if_pos hlen]⟩
  refine .inr ?_
  cases hcheck : f.check with
  | some res => exact .inl ⟨res, rfl, by rw [verdict, if_neg hlen, hcheck]⟩
  | none =>
      refine .inr ?_
      have hadm := admissible_of_check hlen hcheck
      cases hact : b.mActive with
      | false =>
          refine .inl ⟨hadm, rfl, rfl, ?_⟩
          by_cases hold : o = b.mDeliveryOrder
          · exact .inl ⟨hold, by simp [verdict, hlen, hcheck, hact, hold]⟩
          · cases hover : f.oversized with
            | true => exact .inr (.inl ⟨hold, rfl, by
                simp [verdict, hlen, hcheck, hact, hold, hover]⟩)
            | false => exact .inr (.inr ⟨hold, rfl, by
                simp [verdict, hlen, hcheck, hact, hold, hover]⟩)
      | true =>
          refine .inr ⟨hadm, rfl, rfl, ?_⟩
          cases hclash : f.clash src b with
          | none => exact .inr (.inr ⟨fits_of_clash hclash, by
              simp [verdict, hlen, hcheck, hact, hclash]⟩)
          | some res =>
              by_cases hdup : res = .duplicateFragment
              · exact .inl ⟨by rw [hdup], by simp [verdict, hlen, hcheck, hact, hclash, hdup]⟩
              · refine .inr (.inl ⟨res, rfl, ?_⟩)
                cases res <;> simp_all [verdict]

theorem verdict_open {f : Fragment} {src : UInt8} {b : Bucket} {o : ℤ}
    (h : f.verdict src b o = .open) :
    f.Admissible ∧ f.check = none ∧ b.mActive = false ∧ o ≠ b.mDeliveryOrder ∧
      f.oversized = false := by
  rcases f.verdict_cases src b o with hv | hv | ⟨hadm, hcheck, hact, hv⟩ | ⟨-, -, -, hv⟩ <;>
    grind

theorem verdict_fill {f : Fragment} {src : UInt8} {b : Bucket} {o : ℤ}
    (h : f.verdict src b o = .fill) :
    f.Admissible ∧ f.check = none ∧ b.mActive = true ∧ f.Fits src b := by
  rcases f.verdict_cases src b o with hv | hv | ⟨-, -, -, hv⟩ | ⟨hadm, hcheck, hact, hv⟩ <;>
    grind

theorem verdict_stale {f : Fragment} {src : UInt8} {b : Bucket} {o : ℤ} {res : Result}
    (h : f.verdict src b o = .stale res) :
    f.Admissible ∧ b.mActive = false ∧
      (o = b.mDeliveryOrder ∧ res = .fragmentTooOld ∨
        o ≠ b.mDeliveryOrder ∧ f.oversized = true ∧ res = .tooLargeFrame) := by
  rcases f.verdict_cases src b o with hv | hv | ⟨hadm, hcheck, hact, hv⟩ | ⟨-, -, -, hv⟩ <;>
    grind

theorem verdict_duplicate {f : Fragment} {src : UInt8} {b : Bucket} {o : ℤ}
    (h : f.verdict src b o = .duplicate) :
    b.mActive = true ∧ f.clash src b = some .duplicateFragment := by
  rcases f.verdict_cases src b o with hv | hv | ⟨-, -, -, hv⟩ | ⟨hadm, hcheck, hact, hv⟩ <;>
    grind

theorem code_of_check {f : Fragment} {res : Result} (h : f.check = some res) :
    res.code < 0 := by
  cases f <;> simp only [check] at h <;> split_ifs at h <;> cases h <;> decide

theorem code_of_clash {f : Fragment} {src : UInt8} {b : Bucket} {res : Result}
    (h : f.clash src b = some res) : res = .duplicateFragment ∨ res.code < 0 := by
  cases f <;> simp only [clash] at h <;> split_ifs at h <;> cases h <;> decide

theorem verdict_reject {f : Fragment} {src : UInt8} {b : Bucket} {o : ℤ} {res : Result}
    (h : f.verdict src b o = .reject res) : res.code < 0 := by
  by_cases hlen : f.packet.length < f.headerSize
  · simp [verdict, hlen] at h
  cases hcheck : f.check with
  | some res' =>
      simp only [verdict, hlen, hcheck, if_false, Verdict.reject.injEq] at h
      exact h ▸ code_of_check hcheck
  | none =>
      cases hact : b.mActive with
      | false =>
          simp only [verdict, hlen, hcheck, hact, if_false, if_true] at h
          split_ifs at h
      | true =>
          cases hclash : f.clash src b with
          | none => simp [verdict, hlen, hcheck, hact, hclash] at h
          | some res' =>
              rcases code_of_clash hclash with hdup | hcode
              · simp [verdict, hlen, hcheck, hact, hclash, hdup] at h
              · have hne : res' ≠ .duplicateFragment := by
                  rintro rfl
                  exact absurd hcode (by decide)
                have hres : res' = res := by
                  cases res' <;> simp_all [verdict]
                exact hres ▸ hcode

end Fragment

/-! ### What an action leaves behind -/

/-- The bucket of an opener whose allocation succeeded. -/
def Bucket.openedWith (b : Bucket) (cfg : ReceiverConfig) (now lOrder : ℤ) (o : Opening)
    (apData : List UInt8) : Bucket :=
  { b.opened cfg now lOrder o with mpFrame := some (o.frame true apData) }

/-- The bucket of an opener whose allocation failed: it is not active, but
keeps the delivery order and the metadata it was given. -/
def Bucket.openFailed (b : Bucket) (cfg : ReceiverConfig) (now lOrder : ℤ) (o : Opening) :
    Bucket :=
  { b.opened cfg now lOrder o with mpFrame := some {}, mActive := false }

theorem SuperFrame.new_of_alloc {n : ℕ} {memalign : Bool} (h : 0 < n ∧ memalign = true) :
    SuperFrame.new n memalign = { mpData := some (Block.alloc n), mSize := n } := by
  rw [SuperFrame.new, if_pos h]

theorem SuperFrame.new_of_not_alloc {n : ℕ} {memalign : Bool}
    (h : ¬ (0 < n ∧ memalign = true)) : SuperFrame.new n memalign = {} := by
  rw [SuperFrame.new, if_neg h]

/-! ### The memory of a frame -/

def Bucket.block (b : Bucket) : Option Block := b.mpFrame.bind fun f => f.mpData

def Bucket.frameSize (b : Bucket) : ℕ := (b.mpFrame.getD {}).mSize

theorem Bucket.block_openedWith (b : Bucket) (cfg : ReceiverConfig) (now lOrder : ℤ)
    (o : Opening) (apData : List UInt8) (h : 0 < o.lTotalSize) :
    (b.openedWith cfg now lOrder o apData).block =
        some ((Block.alloc o.lTotalSize).memcpy o.lOffset apData o.headerSize o.lPayloadSize) ∧
      (b.openedWith cfg now lOrder o apData).frameSize = o.lTotalSize := by
  simp only [openedWith, block, frameSize, Opening.frame, SuperFrame.new_of_alloc ⟨h, rfl⟩,
    SuperFrame.memcpy, Option.bind_some, Option.map_some, Option.getD_some, and_self]

/-- Whether a Type3 finds a Type2 already there, which it has to move up. -/
def Bucket.Moves (b : Bucket) (f : Fragment) : Prop :=
  f.ofFragmentNo ∈ insert f.slot b.mReceivedFragments ∧ 0 < b.mType2Size

instance (b : Bucket) (f : Fragment) : Decidable (b.Moves f) :=
  inferInstanceAs (Decidable (_ ∧ _))

def Bucket.fillBlock (b : Bucket) (blk : Block) (f : Fragment) : Block :=
  match f with
  | .type1 d => blk.memcpy (b.mFragmentSize * f.slot) d FrameType1.sizeof f.size
  | .type2 d =>
      blk.memcpy (Receiver.type2Offset b (FrameType2.read d)) d FrameType2.sizeof f.size
  | .type3 d =>
      (if b.Moves f then
          blk.memmove (b.mFragmentSize * f.slot + f.size) (b.mFragmentSize * f.ofFragmentNo)
            b.mType2Size
        else blk).memcpy (b.mFragmentSize * f.slot) d FrameType3.sizeof f.size

def Bucket.fillSize (b : Bucket) (f : Fragment) : ℕ :=
  match f with
  | .type1 _ => b.frameSize
  | .type2 d => Receiver.type2ActualSize b (FrameType2.read d)
  | .type3 _ =>
      if b.Moves f then b.mFragmentSize * f.slot + f.size + b.mType2Size
      else if f.ofFragmentNo ∉ insert f.slot b.mReceivedFragments then
        b.mFragmentSize * f.slot + f.size
      else b.frameSize

theorem Bucket.block_fill {b : Bucket} {blk : Block} (f : Fragment) (h : b.block = some blk) :
    (b.fill f).block = some (b.fillBlock blk f) ∧ (b.fill f).frameSize = b.fillSize f := by
  obtain ⟨fr, hfr, hblk⟩ := Option.bind_eq_some_iff.mp h
  cases f with
  | type1 d =>
      simp [fill, Receiver.commitType1, block, frameSize, fillSize, fillBlock, hfr, hblk,
        SuperFrame.memcpy, Fragment.slot, Fragment.size]
  | type2 d =>
      simp [fill, Receiver.commitType2, block, frameSize, fillSize, fillBlock, hfr, hblk,
        SuperFrame.memcpy, Fragment.size]
  | type3 d =>
      have hcond : ((FrameType3.read d).mOfFragmentNo.toNat ∈
          insert ((FrameType3.read d).mOfFragmentNo.toNat - 1) b.mReceivedFragments ∧
            b.mType2Size > 0) ↔ b.Moves (.type3 d) := Iff.rfl
      have hlast : ((FrameType3.read d).mOfFragmentNo.toNat ∉
          insert ((FrameType3.read d).mOfFragmentNo.toNat - 1) b.mReceivedFragments) ↔
            (Fragment.type3 d).ofFragmentNo ∉
              insert (Fragment.type3 d).slot b.mReceivedFragments := Iff.rfl
      simp only [fill, Receiver.commitType3, block, frameSize, hfr, SuperFrame.memcpy,
        SuperFrame.memmove, Option.map_some, Option.bind_some, Option.getD_some, fillSize,
        fillBlock, hcond, hlast]
      split_ifs <;> rw [hblk] <;> exact ⟨rfl, rfl⟩

namespace Receiver

variable {B : BufferSize}

/-- The part of a receiver that decides about packets and deliveries, that
is all but the jitter and the statistics, is what is given. -/
structure Has (r : Receiver B) (mpBuckets : B.Index → Bucket)
    (mBucketMap : Std.ExtTreeMap ℤ B.Index compare) (mStreams : UInt8 → Stream)
    (frameNo : FrameNoTracking) : Prop where
  mpBuckets : r.mpBuckets = mpBuckets
  mBucketMap : r.mBucketMap = mBucketMap
  mStreams : r.mStreams = mStreams
  frameNo : r.frameNo = frameNo

/-- A Type2 leaves its metadata in the stream cache. -/
def cached (mStreams : UInt8 → Stream) (f : Fragment) : UInt8 → Stream :=
  Function.update mStreams f.streamId (f.stream (mStreams f.streamId))

theorem has_cacheStream (r : Receiver B) (f : Fragment) :
    (r.cacheStream f).Has r.mpBuckets r.mBucketMap (cached r.mStreams f) r.frameNo := by
  cases f with
  | type1 d => exact ⟨rfl, rfl, by simp [cached, cacheStream, Fragment.stream], rfl⟩
  | type2 d => exact ⟨rfl, rfl, rfl, rfl⟩
  | type3 d => exact ⟨rfl, rfl, by simp [cached, cacheStream, Fragment.stream], rfl⟩

/-- The packet opens the bucket it selects, as far as its checks go. -/
structure Opens (r : Receiver B) (f : Fragment) : Prop where
  admissible : f.Admissible
  check : f.check = none
  inactive : (r.bucketOf f.superFrameNo).mActive = false
  order_ne : r.unwrapped f.superFrameNo ≠ (r.bucketOf f.superFrameNo).mDeliveryOrder
  small : f.oversized = false

/-- The packet fills a slot of the active bucket it selects. -/
structure Fills (r : Receiver B) (f : Fragment) (aSourceId : UInt8) : Prop where
  admissible : f.Admissible
  check : f.check = none
  active : (r.bucketOf f.superFrameNo).mActive = true
  fits : f.Fits aSourceId (r.bucketOf f.superFrameNo)

/-- Everything the handling of one fragment can do to a receiver. -/
inductive Handled (cfg : ReceiverConfig) (r : Receiver B) (now : ℤ) (memalign : Bool)
    (aSourceId : UInt8) (f : Fragment) : Receiver B → Result → Prop
  /-- The packet is refused and nothing but the jitter and the statistics
  changes. -/
  | refused {r' : Receiver B} {res : Result}
      (has : r'.Has r.mpBuckets r.mBucketMap r.mStreams r.frameNo)
      (code : res = .duplicateFragment ∧ (r.bucketOf f.superFrameNo).mActive = true ∨
        res.code < 0) : Handled cfg r now memalign aSourceId f r' res
  /-- The number is unwrapped before the packet is refused. -/
  | stale {r' : Receiver B} {res : Result}
      (has : r'.Has r.mpBuckets r.mBucketMap r.mStreams
        (r.frameNo.recalculateSuperFrameNo f.superFrameNo))
      (admissible : f.Admissible) (inactive : (r.bucketOf f.superFrameNo).mActive = false)
      (why : r.unwrapped f.superFrameNo = (r.bucketOf f.superFrameNo).mDeliveryOrder ∧
          res = .fragmentTooOld ∨
        r.unwrapped f.superFrameNo ≠ (r.bucketOf f.superFrameNo).mDeliveryOrder ∧
          f.oversized = true ∧ res = .tooLargeFrame) :
      Handled cfg r now memalign aSourceId f r' res
  /-- The bucket is opened, but there is no memory for the frame. -/
  | failed {r' : Receiver B}
      (opens : r.Opens f) (null : ¬ (0 < f.totalSize ∧ memalign = true))
      (has : r'.Has
        (Function.update r.mpBuckets (B.index f.superFrameNo)
          ((r.bucketOf f.superFrameNo).openFailed cfg now (r.unwrapped f.superFrameNo)
            (f.opening aSourceId (r.mStreams f.streamId))))
        ((r.mBucketMap.insert (r.unwrapped f.superFrameNo) (B.index f.superFrameNo)).erase
          (r.unwrapped f.superFrameNo))
        (cached r.mStreams f) (r.frameNo.recalculateSuperFrameNo f.superFrameNo)) :
      Handled cfg r now memalign aSourceId f r' .memoryAllocationError
  /-- The bucket is opened. -/
  | opened {r' : Receiver B}
      (opens : r.Opens f) (alloc : 0 < f.totalSize ∧ memalign = true)
      (has : r'.Has
        (Function.update r.mpBuckets (B.index f.superFrameNo)
          ((r.bucketOf f.superFrameNo).openedWith cfg now (r.unwrapped f.superFrameNo)
            (f.opening aSourceId (r.mStreams f.streamId)) f.packet))
        (r.mBucketMap.insert (r.unwrapped f.superFrameNo) (B.index f.superFrameNo))
        (cached r.mStreams f) (r.frameNo.recalculateSuperFrameNo f.superFrameNo)) :
      Handled cfg r now memalign aSourceId f r' .ok
  /-- A slot of the bucket is filled. -/
  | filled {r' : Receiver B}
      (fills : r.Fills f aSourceId)
      (has : r'.Has
        (Function.update r.mpBuckets (B.index f.superFrameNo)
          ((r.bucketOf f.superFrameNo).fill f))
        r.mBucketMap (cached r.mStreams f) r.frameNo) :
      Handled cfg r now memalign aSourceId f r' .ok

theorem openBucket_of_alloc (cfg : ReceiverConfig) (r : Receiver B) (now : ℤ) (memalign : Bool)
    (lOrder : ℤ) (o : Opening) (apData : List UInt8)
    (h : 0 < o.lTotalSize ∧ memalign = true) :
    (r.openBucket cfg now memalign lOrder o apData).2 = .ok ∧
      (r.openBucket cfg now memalign lOrder o apData).1.Has
        (Function.update r.mpBuckets (B.index o.mSuperFrameNo)
          ((r.bucketOf o.mSuperFrameNo).openedWith cfg now lOrder o apData))
        (r.mBucketMap.insert lOrder (B.index o.mSuperFrameNo)) r.mStreams r.frameNo := by
  have hnull : (SuperFrame.new o.lTotalSize memalign).isNull = false := by
    rw [SuperFrame.new_of_alloc h]
    rfl
  obtain ⟨hpos, rfl⟩ := h
  simp only [openBucket, hnull, Bool.false_eq_true, if_false]
  exact ⟨trivial, rfl, rfl, rfl, rfl⟩

theorem openBucket_of_not_alloc (cfg : ReceiverConfig) (r : Receiver B) (now : ℤ)
    (memalign : Bool) (lOrder : ℤ) (o : Opening) (apData : List UInt8)
    (h : ¬ (0 < o.lTotalSize ∧ memalign = true)) :
    (r.openBucket cfg now memalign lOrder o apData).2 = .memoryAllocationError ∧
      (r.openBucket cfg now memalign lOrder o apData).1.Has
        (Function.update r.mpBuckets (B.index o.mSuperFrameNo)
          ((r.bucketOf o.mSuperFrameNo).openFailed cfg now lOrder o))
        ((r.mBucketMap.insert lOrder (B.index o.mSuperFrameNo)).erase lOrder)
        r.mStreams r.frameNo := by
  have hnew := SuperFrame.new_of_not_alloc h
  simp only [openBucket, hnew]
  exact ⟨rfl, rfl, rfl, rfl, rfl⟩

theorem act_open_of_alloc (cfg : ReceiverConfig) (r : Receiver B) (now : ℤ) (memalign : Bool)
    (aSourceId : UInt8) (f : Fragment) (h : 0 < f.totalSize ∧ memalign = true) :
    (r.act cfg now memalign aSourceId f .open).2 = .ok ∧
      (r.act cfg now memalign aSourceId f .open).1.Has
        (Function.update r.mpBuckets (B.index f.superFrameNo)
          ((r.bucketOf f.superFrameNo).openedWith cfg now (r.unwrapped f.superFrameNo)
            (f.opening aSourceId (r.mStreams f.streamId)) f.packet))
        (r.mBucketMap.insert (r.unwrapped f.superFrameNo) (B.index f.superFrameNo))
        (cached r.mStreams f) (r.frameNo.recalculateSuperFrameNo f.superFrameNo) := by
  have hcache := has_cacheStream ((r.updateJitter now).recalculateSuperFrameNo f.superFrameNo) f
  obtain ⟨hres, hhas⟩ := openBucket_of_alloc cfg
    (((r.updateJitter now).recalculateSuperFrameNo f.superFrameNo).cacheStream f) now
    memalign (r.unwrapped f.superFrameNo) (f.opening aSourceId (r.mStreams f.streamId))
    f.packet h
  rw [bucketOf, hcache.mpBuckets, hcache.mBucketMap, hcache.mStreams, hcache.frameNo] at hhas
  exact ⟨hres, hhas⟩

theorem act_open_of_not_alloc (cfg : ReceiverConfig) (r : Receiver B) (now : ℤ)
    (memalign : Bool) (aSourceId : UInt8) (f : Fragment)
    (h : ¬ (0 < f.totalSize ∧ memalign = true)) :
    (r.act cfg now memalign aSourceId f .open).2 = .memoryAllocationError ∧
      (r.act cfg now memalign aSourceId f .open).1.Has
        (Function.update r.mpBuckets (B.index f.superFrameNo)
          ((r.bucketOf f.superFrameNo).openFailed cfg now (r.unwrapped f.superFrameNo)
            (f.opening aSourceId (r.mStreams f.streamId))))
        ((r.mBucketMap.insert (r.unwrapped f.superFrameNo) (B.index f.superFrameNo)).erase
          (r.unwrapped f.superFrameNo))
        (cached r.mStreams f) (r.frameNo.recalculateSuperFrameNo f.superFrameNo) := by
  have hcache := has_cacheStream ((r.updateJitter now).recalculateSuperFrameNo f.superFrameNo) f
  obtain ⟨hres, hhas⟩ := openBucket_of_not_alloc cfg
    (((r.updateJitter now).recalculateSuperFrameNo f.superFrameNo).cacheStream f) now
    memalign (r.unwrapped f.superFrameNo) (f.opening aSourceId (r.mStreams f.streamId))
    f.packet h
  rw [bucketOf, hcache.mpBuckets, hcache.mBucketMap, hcache.mStreams, hcache.frameNo] at hhas
  exact ⟨hres, hhas⟩

theorem act_fill (cfg : ReceiverConfig) (r : Receiver B) (now : ℤ) (memalign : Bool)
    (aSourceId : UInt8) (f : Fragment) :
    (r.act cfg now memalign aSourceId f .fill).1.Has
      (Function.update r.mpBuckets (B.index f.superFrameNo)
        ((r.bucketOf f.superFrameNo).fill f))
      r.mBucketMap (cached r.mStreams f) r.frameNo := by
  have hcache := has_cacheStream
    ((r.updateJitter now).countFragment.setBucket (B.index f.superFrameNo)
      ((r.bucketOf f.superFrameNo).fill f)) f
  exact ⟨hcache.mpBuckets, hcache.mBucketMap, hcache.mStreams, hcache.frameNo⟩

/-- The step lemma of the fragment handlers. -/
theorem handled (cfg : ReceiverConfig) (r : Receiver B) (now : ℤ) (memalign : Bool)
    (aSourceId : UInt8) (f : Fragment) :
    Handled cfg r now memalign aSourceId f (r.handle cfg now memalign aSourceId f).1
      (r.handle cfg now memalign aSourceId f).2 := by
  rw [handle_eq]
  cases hv : f.verdict aSourceId (r.bucketOf f.superFrameNo) (r.unwrapped f.superFrameNo) with
  | short =>
      have hcode : Result.frameSizeMismatch.code < 0 := by decide
      exact .refused ⟨rfl, rfl, rfl, rfl⟩ (.inr hcode)
  | reject res => exact .refused ⟨rfl, rfl, rfl, rfl⟩ (.inr (Fragment.verdict_reject hv))
  | duplicate =>
      exact .refused ⟨rfl, rfl, rfl, rfl⟩ (.inl ⟨rfl, (Fragment.verdict_duplicate hv).1⟩)
  | stale res =>
      obtain ⟨hadm, hact, hwhy⟩ := Fragment.verdict_stale hv
      exact .stale ⟨rfl, rfl, rfl, rfl⟩ hadm hact hwhy
  | «open» =>
      obtain ⟨hadm, hcheck, hact, hne, hsmall⟩ := Fragment.verdict_open hv
      have hopens : r.Opens f := ⟨hadm, hcheck, hact, hne, hsmall⟩
      by_cases halloc : 0 < f.totalSize ∧ memalign = true
      · obtain ⟨hres, hhas⟩ := r.act_open_of_alloc cfg now memalign aSourceId f halloc
        rw [hres]
        exact .opened hopens halloc hhas
      · obtain ⟨hres, hhas⟩ := r.act_open_of_not_alloc cfg now memalign aSourceId f halloc
        rw [hres]
        exact .failed hopens halloc hhas
  | fill =>
      obtain ⟨hadm, hcheck, hact, hfits⟩ := Fragment.verdict_fill hv
      exact .filled ⟨hadm, hcheck, hact, hfits⟩ (r.act_fill cfg now memalign aSourceId f)

end Receiver

/-- What a decision makes of the bucket it was made on, when the number
unwraps to `lOrder`. -/
def Bucket.after (b : Bucket) (cfg : ReceiverConfig) (now lOrder : ℤ) (memalign : Bool)
    (src : UInt8) (cached : Stream) (f : Fragment) : Verdict → Bucket
  | .open =>
      if 0 < f.totalSize ∧ memalign = true then
        b.openedWith cfg now lOrder (f.opening src cached) f.packet
      else b.openFailed cfg now lOrder (f.opening src cached)
  | .fill => b.fill f
  | _ => b

/-- The decisions that unwrap the superframe number. -/
def Verdict.unwraps : Verdict → Bool
  | .stale _ | .open => true
  | _ => false

theorem Verdict.stale_of_unwraps {v : Verdict} (h : v.unwraps = true) (hne : v ≠ .open) :
    ∃ res, v = .stale res := by
  cases v with
  | stale res => exact ⟨res, rfl⟩
  | «open» => exact absurd rfl hne
  | short => cases h
  | reject res => cases h
  | duplicate => cases h
  | fill => cases h

namespace Receiver

variable {B : BufferSize}

theorem handle_mpBuckets (cfg : ReceiverConfig) (r : Receiver B) (now : ℤ) (memalign : Bool)
    (src : UInt8) (f : Fragment) :
    (r.handle cfg now memalign src f).1.mpBuckets =
      Function.update r.mpBuckets (B.index f.superFrameNo)
        ((r.bucketOf f.superFrameNo).after cfg now (r.unwrapped f.superFrameNo) memalign src
          (r.mStreams f.streamId) f
          (f.verdict src (r.bucketOf f.superFrameNo) (r.unwrapped f.superFrameNo))) := by
  rw [handle_eq]
  cases f.verdict src (r.bucketOf f.superFrameNo) (r.unwrapped f.superFrameNo) with
  | short => exact (Function.update_eq_self _ _).symm
  | reject res => exact (Function.update_eq_self _ _).symm
  | duplicate => exact (Function.update_eq_self _ _).symm
  | stale res => exact (Function.update_eq_self _ _).symm
  | «open» =>
      by_cases halloc : 0 < f.totalSize ∧ memalign = true
      · rw [(r.act_open_of_alloc cfg now memalign src f halloc).2.mpBuckets, Bucket.after,
          if_pos halloc]
      · rw [(r.act_open_of_not_alloc cfg now memalign src f halloc).2.mpBuckets, Bucket.after,
          if_neg halloc]
  | fill => exact (r.act_fill cfg now memalign src f).mpBuckets

theorem handle_frameNo (cfg : ReceiverConfig) (r : Receiver B) (now : ℤ) (memalign : Bool)
    (src : UInt8) (f : Fragment) :
    (r.handle cfg now memalign src f).1.frameNo =
      if (f.verdict src (r.bucketOf f.superFrameNo) (r.unwrapped f.superFrameNo)).unwraps then
        r.frameNo.recalculateSuperFrameNo f.superFrameNo
      else r.frameNo := by
  rw [handle_eq]
  cases f.verdict src (r.bucketOf f.superFrameNo) (r.unwrapped f.superFrameNo) with
  | short => rfl
  | reject res => rfl
  | duplicate => rfl
  | stale res => rfl
  | «open» =>
      by_cases halloc : 0 < f.totalSize ∧ memalign = true
      · exact (r.act_open_of_alloc cfg now memalign src f halloc).2.frameNo
      · exact (r.act_open_of_not_alloc cfg now memalign src f halloc).2.frameNo
  | fill => exact (r.act_fill cfg now memalign src f).frameNo

end Receiver

/-! ### Bundles and the dispatch -/

/-- What every member keeps, the loop keeps. -/
theorem bundleLoop_invariant {σ : Type*} {handle : σ → ℕ → List UInt8 → σ × Result}
    {I : σ → Prop} (hmember : ∀ s lI member, I s → I (handle s lI member).1)
    (apData : List UInt8) (lFrameSize count lI lOffset : ℕ) {s : σ} (hs : I s) :
    I (bundleLoop handle apData lFrameSize count lI lOffset s).1 := by
  induction count generalizing lI lOffset s with
  | zero => exact hs
  | succ count ih =>
      have hstep := hmember s lI ((apData.drop lOffset).take lFrameSize) hs
      simp only [bundleLoop]
      split_ifs with htype hres
      · exact hs
      · exact hstep
      · exact ih _ _ hstep

/-- Two loops whose members are related step by step are related. -/
theorem bundleLoop_simulation {σ τ : Type*} {handle : σ → ℕ → List UInt8 → σ × Result}
    {handle' : τ → ℕ → List UInt8 → τ × Result} {R : σ → τ → Prop}
    (hmember : ∀ s t lI member, R s t →
      R (handle s lI member).1 (handle' t lI member).1 ∧
        (handle s lI member).2 = (handle' t lI member).2)
    (apData : List UInt8) (lFrameSize count lI lOffset : ℕ) {s : σ} {t : τ} (hR : R s t) :
    R (bundleLoop handle apData lFrameSize count lI lOffset s).1
        (bundleLoop handle' apData lFrameSize count lI lOffset t).1 ∧
      (bundleLoop handle apData lFrameSize count lI lOffset s).2 =
        (bundleLoop handle' apData lFrameSize count lI lOffset t).2 := by
  induction count generalizing lI lOffset s t with
  | zero => exact ⟨hR, rfl⟩
  | succ count ih =>
      obtain ⟨hstep, hres⟩ := hmember s t lI ((apData.drop lOffset).take lFrameSize) hR
      simp only [bundleLoop, ← hres]
      split_ifs with htype hstop
      · exact ⟨hR, rfl⟩
      · exact ⟨hstep, rfl⟩
      · exact ih _ _ hstep

namespace Receiver

variable {B : BufferSize}

/-- The rule for `dispatch`: what every fragment and the counting of a bundle
keep, every packet keeps. -/
theorem dispatch_invariant {cfg : ReceiverConfig} {src : UInt8} {I : Receiver B → Prop}
    (hhandle : ∀ r now memalign f, I r → I (r.handle cfg now memalign src f).1)
    (hbundle : ∀ r : Receiver B, I r → I r.countBundle) {r : Receiver B}
    (env : Surroundings) (aData : List UInt8) (hr : I r) :
    I (r.dispatch cfg env aData src).1 := by
  unfold dispatch
  split_ifs with hempty
  · exact hr
  · cases getFrameType (byteAt aData 0) with
    | none => exact hr
    | some t =>
        cases t with
        | type0 => exact hr
        | type1 => exact hhandle r _ _ (.type1 aData) hr
        | type2 => exact hhandle r _ _ (.type2 aData) hr
        | type3 => exact hhandle r _ _ (.type3 aData) hr
        | type4 =>
            simp only [handleType4]
            split_ifs with hlen hcount hmod hsize
            · exact hr
            · exact hr
            · exact hbundle r hr
            · exact hbundle r hr
            · exact bundleLoop_invariant
                (fun s lI member hs => hhandle s (env.nowUs lI) (env.memalign lI)
                  (.type1 member) hs) aData _ _ 0 _ (hbundle r hr)

end Receiver

end ElasticFrame
