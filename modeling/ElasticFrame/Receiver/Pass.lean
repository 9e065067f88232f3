import ElasticFrame.Receiver.Step

/-!
What a pass does to a receiver. `processNacks` touches the NACK bookkeeping
of the buckets and nothing else that matters later; `deliverFrames` closes
the buckets it is given, each on its own.
-/

namespace ElasticFrame

open Lib

namespace Bucket

/-- The bucket without its NACK bookkeeping, which no packet and no delivery
depends on. -/
def core (b : Bucket) : Bucket := { b with mLastNackUs := 0, mNackCount := 0 }

def closed (b : Bucket) : Bucket := { b with mActive := false, mpFrame := none }

/-- The frame a delivery hands over. -/
def delivered (b : Bucket) : SuperFrame := b.deliveredFrame (b.mpFrame.getD {})

@[simp] theorem core_core (b : Bucket) : b.core.core = b.core := rfl
@[simp] theorem core_closed (b : Bucket) : b.closed.core = b.core.closed := rfl
@[simp] theorem core_mActive (b : Bucket) : b.core.mActive = b.mActive := rfl
@[simp] theorem core_mDeliveryOrder (b : Bucket) : b.core.mDeliveryOrder = b.mDeliveryOrder := rfl
@[simp] theorem core_mpFrame (b : Bucket) : b.core.mpFrame = b.mpFrame := rfl
@[simp] theorem core_delivered (b : Bucket) : b.core.delivered = b.delivered := rfl
@[simp] theorem core_complete (b : Bucket) : b.core.complete = b.complete := rfl

@[simp] theorem core_due (b : Bucket) (cfg : ReceiverConfig) (now : ℤ) :
    b.core.due cfg now = b.due cfg now := rfl

@[simp] theorem core_clash (f : Fragment) (src : UInt8) (b : Bucket) :
    f.clash src b.core = f.clash src b := rfl

@[simp] theorem core_verdict (f : Fragment) (src : UInt8) (b : Bucket) (o : ℤ) :
    f.verdict src b.core o = f.verdict src b o := rfl

@[simp] theorem core_openedWith (b : Bucket) (cfg : ReceiverConfig) (now lOrder : ℤ)
    (o : Opening) (apData : List UInt8) :
    (b.openedWith cfg now lOrder o apData).core = b.openedWith cfg now lOrder o apData := rfl

theorem fits_core {f : Fragment} {src : UInt8} {b : Bucket} (h : f.Fits src b) :
    f.Fits src b.core :=
  ⟨h.superFrameNo, h.streamId, h.sourceId, h.ofFragmentNo, h.slot, h.type1Size, h.type2Bound⟩

@[simp] theorem core_fill (b : Bucket) (f : Fragment) : (b.fill f).core = b.core.fill f := by
  cases f <;> rfl

theorem eq_of_core {b b' : Bucket} (h : b.core = b'.core) {α : Sort*} (g : Bucket → α)
    (hg : ∀ b, g b.core = g b) : g b = g b' := by
  rw [← hg, h, hg]

end Bucket

namespace Receiver

variable {B : BufferSize}

/-- Two receivers that no later packet and no later delivery tells apart:
they agree on all but jitter, statistics and NACK bookkeeping. -/
structure Alike (r r' : Receiver B) : Prop where
  buckets : ∀ i, (r.mpBuckets i).core = (r'.mpBuckets i).core
  map : r.mBucketMap = r'.mBucketMap
  streams : r.mStreams = r'.mStreams
  frameNo : r.frameNo = r'.frameNo

namespace Alike

theorem refl (r : Receiver B) : r.Alike r := ⟨fun _ => rfl, rfl, rfl, rfl⟩

theorem symm {r r' : Receiver B} (h : r.Alike r') : r'.Alike r :=
  ⟨fun i => (h.buckets i).symm, h.map.symm, h.streams.symm, h.frameNo.symm⟩

theorem trans {r r' r'' : Receiver B} (h : r.Alike r') (h' : r'.Alike r'') : r.Alike r'' :=
  ⟨fun i => (h.buckets i).trans (h'.buckets i), h.map.trans h'.map,
    h.streams.trans h'.streams, h.frameNo.trans h'.frameNo⟩

theorem bucket_eq {r r' : Receiver B} (h : r.Alike r') {α : Sort*} (g : Bucket → α)
    (hg : ∀ b, g b.core = g b) (i : B.Index) : g (r.mpBuckets i) = g (r'.mpBuckets i) :=
  Bucket.eq_of_core (h.buckets i) g hg

end Alike

/-! ### NACKs -/

theorem processNack_alike (cfg : ReceiverConfig) (clk : PassClock) (r : Receiver B)
    (i : B.Index) : r.Alike (r.processNack cfg clk i).1 := by
  simp only [processNack]
  generalize (if (r.mpBuckets i).mLastNackUs = 0 then _ else _) = lTriggerTimeUs
  split_ifs with hcomplete hretries htime hempty
  · exact .refl r
  · exact .refl r
  · exact .refl r
  · exact .refl r
  · refine ⟨fun j => ?_, rfl, rfl, rfl⟩
    by_cases hj : j = i
    · subst hj
      simp [setBucket, Bucket.core]
    · simp [setBucket, Function.update_of_ne hj]

theorem processNackList_alike (cfg : ReceiverConfig) (clk : PassClock) (is : List B.Index)
    (r : Receiver B) : r.Alike (processNackList cfg clk is r).1 := by
  induction is generalizing r with
  | nil => exact .refl r
  | cons i is ih => exact (r.processNack_alike cfg clk i).trans (ih _)

theorem processNacks_alike (cfg : ReceiverConfig) (clk : PassClock) (r : Receiver B) :
    r.Alike (r.processNacks cfg clk).1 := by
  unfold processNacks
  split_ifs
  · exact .refl r
  · exact processNackList_alike cfg clk _ r

/-! ### Deliveries -/

theorem deliverFrame_of_frame (r : Receiver B) {i : B.Index}
    (h : (r.mpBuckets i).mpFrame.isSome) :
    (r.deliverFrame i).2 = [{ bucket := i, frame := (r.mpBuckets i).delivered }] ∧
      (r.deliverFrame i).1.Has (Function.update r.mpBuckets i (r.mpBuckets i).closed)
        (r.mBucketMap.erase (r.mpBuckets i).mDeliveryOrder) r.mStreams r.frameNo := by
  obtain ⟨f, hf⟩ := Option.isSome_iff_exists.mp h
  simp only [deliverFrame, hf, Bucket.delivered, Option.getD_some]
  exact ⟨trivial, rfl, rfl, rfl, rfl⟩

/-- The loop over the frames to deliver: the buckets of the list are closed,
their orders leave the map, and nothing else changes. -/
theorem deliverFrames_spec (is : List B.Index) (r : Receiver B) (hnodup : is.Nodup)
    (hframe : ∀ i ∈ is, (r.mpBuckets i).mpFrame.isSome) :
    (deliverFrames is r).2 =
        is.map (fun i => { bucket := i, frame := (r.mpBuckets i).delivered }) ∧
      (∀ i, (deliverFrames is r).1.mpBuckets i =
        if i ∈ is then (r.mpBuckets i).closed else r.mpBuckets i) ∧
      (∀ o, (deliverFrames is r).1.mBucketMap[o]? =
        if o ∈ is.map (fun i => (r.mpBuckets i).mDeliveryOrder) then none
        else r.mBucketMap[o]?) ∧
      (deliverFrames is r).1.mStreams = r.mStreams ∧
      (deliverFrames is r).1.frameNo = r.frameNo := by
  induction is generalizing r with
  | nil => simp [deliverFrames]
  | cons i is ih =>
      obtain ⟨hi, hnodup⟩ := List.nodup_cons.mp hnodup
      obtain ⟨hout, hhas⟩ := r.deliverFrame_of_frame (hframe i (by simp))
      have hother : ∀ j ∈ is, (r.deliverFrame i).1.mpBuckets j = r.mpBuckets j := by
        intro j hj
        have hne : j ≠ i := fun h => hi (h ▸ hj)
        rw [hhas.mpBuckets, Function.update_of_ne hne]
      obtain ⟨hdel, hbuckets, hmap, hstreams, hno⟩ := ih (r.deliverFrame i).1 hnodup
        (fun j hj => by rw [hother j hj]; exact hframe j (by simp [hj]))
      refine ⟨?_, fun j => ?_, fun o => ?_, ?_, ?_⟩
      · simp only [deliverFrames, hout, hdel, List.map_cons, List.singleton_append]
        congr 1
        exact List.map_congr_left fun j hj => by rw [hother j hj]
      · simp only [deliverFrames, hbuckets j, hhas.mpBuckets]
        by_cases hji : j = i
        · subst hji
          simp [hi]
        · simp [hji]
      · have horders : is.map (fun j => ((r.deliverFrame i).1.mpBuckets j).mDeliveryOrder) =
            is.map (fun j => (r.mpBuckets j).mDeliveryOrder) :=
          List.map_congr_left fun j hj => by rw [hother j hj]
        simp only [deliverFrames, hmap o, horders, hhas.mBucketMap,
          Std.ExtTreeMap.getElem?_erase, List.map_cons, List.mem_cons,
          Std.LawfulEqCmp.compare_eq_iff_eq]
        grind
      · simp only [deliverFrames, hstreams, hhas.mStreams]
      · simp only [deliverFrames, hno, hhas.frameNo]

end Receiver

end ElasticFrame
