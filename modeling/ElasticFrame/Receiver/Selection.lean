import ElasticFrame.Receiver.Representation

/-!
What one pass delivers: the buckets that are due, in delivery order, each
frame marked as broken if a fragment of it is missing.
-/

namespace ElasticFrame

open Lib

/-- The fragment bits of a well-formed bucket are all set just when the count
says so. -/
theorem Bucket.WellFormed.complete_iff {B : BufferSize} {i : B.Index} {b : Bucket}
    (h : b.WellFormed i) :
    b.complete = true ↔ ∀ k ≤ b.mOfFragmentNo, k ∈ b.mReceivedFragments := by
  have hsub : b.mReceivedFragments ⊆ Finset.range (b.mOfFragmentNo + 1) := fun k hk =>
    Finset.mem_range.mpr (Nat.lt_succ_of_le (h.received_le k hk))
  rw [Bucket.complete, decide_eq_true_iff, h.count]
  constructor
  · intro hcard k hk
    have heq : b.mReceivedFragments = Finset.range (b.mOfFragmentNo + 1) := by
      apply Finset.eq_of_subset_of_card_le hsub
      rw [Finset.card_range, hcard]
    rw [heq]
    exact Finset.mem_range.mpr (Nat.lt_succ_of_le hk)
  · intro hall
    have heq : b.mReceivedFragments = Finset.range (b.mOfFragmentNo + 1) :=
      hsub.antisymm fun k hk => hall k (Nat.le_of_lt_succ (Finset.mem_range.mp hk))
    rw [heq, Finset.card_range]

theorem Bucket.due_iff (b : Bucket) (cfg : ReceiverConfig) (now : ℤ) :
    b.due cfg now = true ↔ b.complete = true ∨ b.mTimeoutUs ≤ now ∨
      (cfg.mHolTimeoutMs > 0 ∧
        now - b.mFirstArrivalUs ≥ (cfg.mHolTimeoutMs.toNat : ℤ) * 1000) := by
  simp only [Bucket.due, Bool.or_eq_true, Bool.and_eq_true, decide_eq_true_iff, or_assoc]

namespace Receiver

variable {B : BufferSize}

def framesCounted (r : Receiver B) : ℕ :=
  r.mStatistics.mCompleteFrames + r.mStatistics.mBrokenFrames

theorem framesCounted_processNack (cfg : ReceiverConfig) (clk : PassClock) (r : Receiver B)
    (i : B.Index) : (r.processNack cfg clk i).1.framesCounted = r.framesCounted := by
  simp only [processNack]
  generalize (if (r.mpBuckets i).mLastNackUs = 0 then _ else _) = lTriggerTimeUs
  split_ifs <;> rfl

theorem framesCounted_processNackList (cfg : ReceiverConfig) (clk : PassClock)
    (is : List B.Index) (r : Receiver B) :
    (processNackList cfg clk is r).1.framesCounted = r.framesCounted := by
  induction is generalizing r with
  | nil => rfl
  | cons i is ih => exact (ih _).trans (framesCounted_processNack cfg clk r i)

theorem framesCounted_processNacks (cfg : ReceiverConfig) (clk : PassClock) (r : Receiver B) :
    (r.processNacks cfg clk).1.framesCounted = r.framesCounted := by
  unfold processNacks
  split_ifs
  · rfl
  · exact framesCounted_processNackList cfg clk _ r

theorem framesCounted_deliverFrame (r : Receiver B) (i : B.Index) :
    (r.deliverFrame i).1.framesCounted = r.framesCounted + (r.deliverFrame i).2.length := by
  simp only [deliverFrame]
  split
  · rfl
  · split_ifs
    · show r.mStatistics.mCompleteFrames + (r.mStatistics.mBrokenFrames + 1) =
        r.mStatistics.mCompleteFrames + r.mStatistics.mBrokenFrames + 1
      omega
    · show r.mStatistics.mCompleteFrames + 1 + r.mStatistics.mBrokenFrames =
        r.mStatistics.mCompleteFrames + r.mStatistics.mBrokenFrames + 1
      omega

theorem framesCounted_deliverFrames (is : List B.Index) (r : Receiver B) :
    (deliverFrames is r).1.framesCounted =
      r.framesCounted + (deliverFrames is r).2.length := by
  induction is generalizing r with
  | nil => rfl
  | cons i is ih =>
      simp only [deliverFrames, ih, framesCounted_deliverFrame, List.length_append]
      omega

theorem framesCounted_processTimeouts (cfg : ReceiverConfig) (clk : PassClock)
    (r : Receiver B) :
    (r.processTimeouts cfg clk).1.framesCounted =
      r.framesCounted + (deliveries (r.processTimeouts cfg clk).2).length := by
  simp only [processTimeouts]
  rw [deliveries_append, deliveries_nacks, deliveries_delivers, framesCounted_deliverFrames,
    framesCounted_processNacks, List.nil_append]

/-- In every state the receiver can be brought to, a pass delivers the due
buckets and no other, by increasing delivery order, and leaves the rest as it
is but for the NACK bookkeeping. -/
theorem pass_of_reachable (B : BufferSize) (cfg : ReceiverConfig) (es : List Event)
    (clk : PassClock) :
    let r := ((Receiver.system B cfg).run (Receiver.fresh B) es).1
    let r' := (r.processTimeouts cfg clk).1
    let ds := deliveries (r.processTimeouts cfg clk).2
    (∀ i, (∃ d ∈ ds, d.bucket = i) ↔ (r.mpBuckets i).mActive = true ∧
      ((r.mpBuckets i).complete = true ∨ (r.mpBuckets i).mTimeoutUs ≤ clk.timeouts ∨
        (cfg.mHolTimeoutMs > 0 ∧ clk.timeouts - (r.mpBuckets i).mFirstArrivalUs ≥
          (cfg.mHolTimeoutMs.toNat : ℤ) * 1000))) ∧
    (ds.Pairwise fun d d' =>
      (r.mpBuckets d.bucket).mDeliveryOrder < (r.mpBuckets d'.bucket).mDeliveryOrder) ∧
    (∀ d ∈ ds, d.frame = (r.mpBuckets d.bucket).delivered ∧
      (d.frame.mBroken = true ↔ ∃ k ≤ (r.mpBuckets d.bucket).mOfFragmentNo,
        k ∉ (r.mpBuckets d.bucket).mReceivedFragments)) ∧
    (∀ (o : ℤ) (i : B.Index), r'.mBucketMap[o]? = some i ↔
      r.mBucketMap[o]? = some i ∧ ¬ ∃ d ∈ ds, d.bucket = i) ∧
    (∀ (o : ℤ) (i : B.Index), r'.mBucketMap[o]? = some i →
      (r'.mpBuckets i).due cfg clk.timeouts = false) ∧
    (∀ i, (¬ ∃ d ∈ ds, d.bucket = i) → (r'.mpBuckets i).core = (r.mpBuckets i).core) ∧
    r'.framesCounted = r.framesCounted + ds.length := by
  intro r r' ds
  have hrep : r.Represented := by
    have hrun := represented_run (represented_fresh (B := B)) cfg (es.flatMap fun e => e.calls cfg)
    rw [← Receiver.system_run] at hrun
    exact hrun
  obtain ⟨hpassed, hds⟩ := hrep.passed cfg clk
  have hdelivered : ∀ i, (∃ d ∈ ds, d.bucket = i) ↔
      (r.mpBuckets i).mActive = true ∧ (r.mpBuckets i).due cfg clk.timeouts = true := by
    intro i
    rw [← hrep.mem_dueList, show ds = _ from hds]
    simp only [List.mem_map, exists_exists_and_eq_and, exists_eq_right]
  have hmapped : ∀ (o : ℤ) (i : B.Index), r'.mBucketMap[o]? = some i ↔
      r.mBucketMap[o]? = some i ∧ ¬ ∃ d ∈ ds, d.bucket = i := by
    intro o i
    rw [hpassed.map, hdelivered]
    refine and_congr_right fun hget => ?_
    rw [((hrep.mapped o i).mp hget).1]
    simp
  have hkept : ∀ i, (¬ ∃ d ∈ ds, d.bucket = i) →
      (r'.mpBuckets i).core = (r.mpBuckets i).core := by
    intro i hi
    rw [hdelivered] at hi
    rw [hpassed.buckets i, if_neg hi]
  refine ⟨fun i => ?_, ?_, fun d hd => ?_, hmapped, fun o i hget => ?_, hkept,
    framesCounted_processTimeouts cfg clk r⟩
  · rw [hdelivered, Bucket.due_iff]
  · rw [show ds = _ from hds, List.pairwise_map]
    exact hrep.dueList_sorted cfg clk.timeouts
  · have hactive := ((hdelivered d.bucket).mp ⟨d, hd, rfl⟩).1
    rw [show ds = _ from hds] at hd
    obtain ⟨i, -, rfl⟩ := List.mem_map.mp hd
    refine ⟨rfl, ?_⟩
    have hcomplete := (hrep.wellFormed i hactive).complete_iff
    show (!(r.mpBuckets i).complete) = true ↔ _
    rw [Bool.not_eq_true', ← Bool.not_eq_true, hcomplete]
    push Not
    rfl
  · have hdue := ((hpassed.map o i).mp hget).2
    rw [← hdue, ← Bucket.core_due, hkept i ((hmapped o i).mp hget).2, Bucket.core_due]

end Receiver

end ElasticFrame
