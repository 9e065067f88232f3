import ElasticFrame.Repair.Message

/-!
A NACK that the sender refuses. The entries are checked in the loop that
queues the fragments, so what stands before a malformed entry has been queued
when the message is refused.
-/

namespace ElasticFrame

namespace Retention

/-- A request for the key and the stream is queued. -/
def Answers (s : Retention) (lKey : UInt32) (mStreamId : UInt8) : Prop :=
  ∃ f, s.mRetentionBuffer[lKey]? = some f ∧ f.mStreamId = mStreamId ∧
    f.mGeneration ∉ s.mQueuedRetransmits

theorem request_of_not_answers {s : Retention} {lKey : UInt32} {mStreamId : UInt8}
    (h : ¬ s.Answers lKey mStreamId) : s.request lKey mStreamId = s := by
  rw [request]
  split
  · rfl
  · rename_i f hf
    exact if_neg fun hboth => h ⟨f, hf, hboth⟩

theorem request_of_answers {s : Retention} {lKey : UInt32} {mStreamId : UInt8}
    (h : s.Answers lKey mStreamId) :
    s.mRetransmitQueue.length < (s.request lKey mStreamId).mRetransmitQueue.length := by
  obtain ⟨f, hf, hboth⟩ := h
  rw [request, hf]
  dsimp only
  rw [if_pos hboth, List.length_append]
  exact Nat.lt_succ_self _

theorem length_le_request (s : Retention) (lKey : UInt32) (mStreamId : UInt8) :
    s.mRetransmitQueue.length ≤ (s.request lKey mStreamId).mRetransmitQueue.length := by
  by_cases h : s.Answers lKey mStreamId
  · exact (request_of_answers h).le
  · rw [request_of_not_answers h]

def requestCalls (ks : List (UInt32 × UInt8)) : List StoreCall :=
  ks.map fun k => .request k.1 k.2

theorem length_le_after_requestCalls (cfg : SenderConfig) (ks : List (UInt32 × UInt8))
    (s : Retention) :
    s.mRetransmitQueue.length ≤ (s.after cfg (requestCalls ks)).mRetransmitQueue.length := by
  induction ks generalizing s with
  | nil => exact le_rfl
  | cons k ks ih => exact (s.length_le_request k.1 k.2).trans (ih _)

/-- Requests leave the containers as they are just when none of them is
answered. -/
theorem after_requestCalls_eq_iff (cfg : SenderConfig) (ks : List (UInt32 × UInt8))
    (s : Retention) :
    s.after cfg (requestCalls ks) = s ↔ ∀ k ∈ ks, ¬ s.Answers k.1 k.2 := by
  induction ks with
  | nil => simp [requestCalls]
  | cons k ks ih =>
      rw [List.forall_mem_cons]
      by_cases h : s.Answers k.1 k.2
      · refine iff_of_false (fun heq => ?_) (fun hall => hall.1 h)
        have hlt : s.mRetransmitQueue.length <
            (s.after cfg (requestCalls (k :: ks))).mRetransmitQueue.length :=
          (request_of_answers h).trans_le (length_le_after_requestCalls cfg ks _)
        rw [heq] at hlt
        exact absurd hlt (lt_irrefl _)
      · have hstep : s.after cfg (requestCalls (k :: ks)) = s.after cfg (requestCalls ks) := by
          show (s.request k.1 k.2).after cfg (requestCalls ks) = _
          rw [request_of_not_answers h]
        rw [hstep, ih, and_iff_right h]

theorem nackCalls_eq (lEntries : List NackEntry) :
    nackCalls lEntries = requestCalls ((lEntries.takeWhile (·.Sound)).flatMap fun e =>
      (List.range (e.mFragmentCount.toNat + 1)).map fun lJ =>
        (makeRetentionKey e.mSuperFrameNo (e.mFragmentNo + UInt16.ofNat lJ), e.mStreamId)) := by
  rw [nackCalls, requestCalls, List.map_flatMap]
  simp only [rangeCalls, List.map_map, List.range_eq_range']
  rfl

end Retention

namespace Sender

open Retention

/-- A refused NACK changes nothing outside the retention containers. -/
theorem receiveNack_refused {s : Sender} {aData : List UInt8}
    (h : (s.receiveNack aData).2 ≠ .ok) :
    (s.receiveNack aData).1 = { s with retention := (s.receiveNack aData).1.retention } := by
  rw [receiveNack] at h ⊢
  dsimp only at h ⊢
  split_ifs at h ⊢ with hsize htype hsubtype hlength hok
  · rfl
  · rfl
  · rfl
  · rfl
  · exact absurd hok h
  · rfl

theorem receiveNack_ok_or (s : Sender) (aData : List UInt8) :
    nackEntries aData = [] ∨
      ((s.receiveNack aData).2 = .ok ↔ ∀ e ∈ nackEntries aData, e.Sound) := by
  by_cases hheader : aData.length < FrameType0Nack.sizeof ∨
      getFrameType (FrameType0Nack.read aData).mFrameType ≠ some .type0 ∨
      (FrameType0Nack.read aData).mSubtype ≠ type0SubtypeNack ∨
      aData.length ≠
        FrameType0Nack.sizeof + (FrameType0Nack.read aData).mNackCount.toNat * NackEntry.sizeof
  · exact .inl (if_pos hheader)
  · refine .inr ?_
    rw [nackEntries, if_neg hheader, receiveNack]
    obtain ⟨hsize, htype, hsubtype, hlength⟩ := by simpa only [not_or] using hheader
    dsimp only
    rw [if_neg hsize, if_neg htype, if_neg hsubtype, if_neg hlength]
    exact requestEntries_ok_iff _ s.retention

/-- A refused NACK leaves the sender as it was just when no fragment is
queued for the entries before the first malformed one. -/
theorem refused_unchanged_iff (s : Sender) (aData : List UInt8) :
    ((s.receiveNack aData).2 ≠ .ok → (s.receiveNack aData).1 = s) ↔
      (∀ e ∈ nackEntries aData, e.Sound) ∨
        ∀ e ∈ (nackEntries aData).takeWhile (·.Sound), ∀ lJ ≤ e.mFragmentCount.toNat,
          ¬ s.retention.Answers
            (makeRetentionKey e.mSuperFrameNo (e.mFragmentNo + UInt16.ofNat lJ))
            e.mStreamId := by
  -- requests do not read the configuration, so any will do
  have hretention := @receiveNack_retention (SenderConfig.new 256 .single 0 0) s aData
  have hcontainers : (s.receiveNack aData).1.retention = s.retention ↔
      ∀ e ∈ (nackEntries aData).takeWhile (·.Sound), ∀ lJ ≤ e.mFragmentCount.toNat,
        ¬ s.retention.Answers
          (makeRetentionKey e.mSuperFrameNo (e.mFragmentNo + UInt16.ofNat lJ)) e.mStreamId := by
    rw [hretention, nackCalls_eq, after_requestCalls_eq_iff]
    simp only [List.mem_flatMap, List.mem_map, List.mem_range, Nat.lt_succ_iff]
    constructor
    · intro h e he lJ hlJ
      exact h _ ⟨e, he, lJ, hlJ, rfl⟩
    · rintro h k ⟨e, he, lJ, hlJ, rfl⟩
      exact h e he lJ hlJ
  rw [← hcontainers]
  by_cases hok : (s.receiveNack aData).2 = .ok
  · refine iff_of_true (fun hne => absurd hok hne) (.inl ?_)
    rcases s.receiveNack_ok_or aData with hnil | hiff
    · rw [hnil]
      exact fun e he => absurd he List.not_mem_nil
    · exact hiff.mp hok
  · have heq : (s.receiveNack aData).1 = s ↔
        (s.receiveNack aData).1.retention = s.retention := by
      refine ⟨congrArg Sender.retention, fun hsame => ?_⟩
      rw [receiveNack_refused hok, hsame]
    rw [← heq]
    refine ⟨fun h => .inr (h hok), fun h _ => h.elim (fun hsound => ?_) id⟩
    rcases s.receiveNack_ok_or aData with hnil | hiff
    · rw [heq, hretention, hnil]
      rfl
    · exact absurd (hiff.mpr hsound) hok

end Sender

namespace Sample

def retainingCfg : SenderConfig := SenderConfig.new 256 .single 1000 10000

/-- A request for the only fragment there is, and then a malformed one. -/
def malformedNack : List UInt8 :=
  nackMessage
    [{ mStreamId := 1, mSuperFrameNo := 0, mFragmentNo := 0, mFragmentCount := 0 },
      { mStreamId := 1, mSuperFrameNo := 0, mFragmentNo := 65535, mFragmentCount := 1 }]

end Sample

/-- The fragment is queued, although the NACK is refused. -/
theorem not_unchanged_malformedNack :
    let s := ((Sender.machine Sample.retainingCfg).run (Sender.new Sample.retainingCfg)
      [Sample.sendAt 0 10]).1
    (s.receiveNack Sample.malformedNack).2 = .bufferOutOfBounds ∧
      (s.receiveNack Sample.malformedNack).1 ≠ s := by
  intro s
  refine ⟨by decide +kernel, fun heq => ?_⟩
  have hbefore : s.retention.mRetransmitQueue.length = 0 := by decide +kernel
  have hafter : (s.receiveNack Sample.malformedNack).1.retention.mRetransmitQueue.length = 1 := by
    decide +kernel
  rw [heq, hbefore] at hafter
  cases hafter

end ElasticFrame
