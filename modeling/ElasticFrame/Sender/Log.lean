import ElasticFrame.Sender.Law

/-!
What a sender does in the order in which it does it: the calls on its containers
and the packets it hands to the send callback between them. A retransmit that
goes into a bundle is taken before the fragments of the bundle are retained, and
sent after it.
-/

namespace ElasticFrame

open Lib

/-- A call on the containers, or a packet that is sent, with the key of the
retained fragment it repeats. -/
inductive Moment
  | call (c : StoreCall)
  | sent (p : Packet) (again : Option UInt32)

namespace Moment

def storeCall : Moment → Option StoreCall
  | call c => some c
  | sent _ _ => none

def packet : Moment → Option Packet
  | call _ => none
  | sent p _ => some p

def key : Moment → Option UInt32
  | call _ => none
  | sent _ again => again

end Moment

/-- The key of a fragment that is sent again. -/
def Transmission.again : Transmission → Option UInt32
  | fragment _ _ => none
  | retransmit lRequest _ => some lRequest.mKey

namespace Sender

/-! ### The log -/

def fragmentMoments (clk : SendClock) (o : Outgoing) (aFragmentNo : UInt16) (data : List UInt8) :
    List Moment :=
  [.call (fragmentCall clk o.aSuperFrameNo aFragmentNo o.aStreamId data),
    .sent { data, streamId := o.aStreamId } none]

def type1Moments (clk : SendClock) (o : Outgoing) (apData : List UInt8) (count : ℕ) :
    List Moment :=
  (List.range count).flatMap fun k =>
    fragmentMoments clk o (UInt16.ofNat k) (o.packet1 apData k)

def tailMoments (clk : SendClock) (o : Outgoing) (apData : List UInt8) (p : Packetization) :
    List Moment :=
  (if p.lNeedsType3 then fragmentMoments clk o (o.aOfFragmentNo - 1) (o.packet3 apData p)
  else []) ++ fragmentMoments clk o o.aOfFragmentNo (o.packet2 apData p)

/-- The request that is served in a bundle with room for `room` fragments, and
its fragment. -/
def served (s : Sender) (room : ℕ) : Option (RetransmitRequest × RetainedFragment) :=
  if s.retention.mRetransmitQueue ≠ [] ∧ room > 1 then s.retention.take.2 else none

/-- The request whose fragment goes into the bundle. -/
def servedBundled (o : Outgoing) (room : ℕ) (s : Sender) :
    Option (RetransmitRequest × RetainedFragment) :=
  (s.served room).filter fun served => served.2.mData.length = o.lType1FrameSize

/-- The request whose fragment is sent before the bundle. -/
def servedAlone (o : Outgoing) (room : ℕ) (s : Sender) :
    Option (RetransmitRequest × RetainedFragment) :=
  (s.served room).filter fun served => served.2.mData.length ≠ o.lType1FrameSize

/-- A retained fragment is sent again. -/
def again (served : RetransmitRequest × RetainedFragment) : Moment :=
  .sent served.2.packet (some served.1.mKey)

/-- The fragments of the superframe in the bundle that starts at `lFragIdx`. -/
def fragsInBundle (cfg : SenderConfig) (clk : SendClock) (o : Outgoing) (apData : List UInt8)
    (n lFragIdx : ℕ) (s : Sender) : ℕ :=
  (bundleIteration cfg clk o apData n lFragIdx (lFragIdx * o.aType1PayloadSize) s).lFragsInBundle

/-- An iteration of the bundle loop. -/
def iterationMoments (cfg : SenderConfig) (clk : SendClock) (o : Outgoing) (apData : List UInt8)
    (n lFragIdx : ℕ) (s : Sender) : List Moment :=
  let room := bundleRoom cfg n lFragIdx
  let lFragsInBundle := fragsInBundle cfg clk o apData n lFragIdx s
  (s.takeCalls room).map .call ++ (s.servedAlone o room).toList.map again ++
    ((type1Calls clk o apData lFragsInBundle lFragIdx).map .call ++
      [.sent (bundle o (bundleMembers cfg o apData n lFragIdx s lFragsInBundle))
        ((s.servedBundled o room).map fun served => served.1.mKey)])

/-- The iterations of the bundle loop: the fragment each begins with, and the
sender before it. -/
def bundleSteps (cfg : SenderConfig) (clk : SendClock) (o : Outgoing) (apData : List UInt8)
    (n lFragIdx : ℕ) (s : Sender) : List (ℕ × Sender) :=
  if _h : lFragIdx < n then
    let sent :=
      bundleIteration cfg clk o apData n lFragIdx (lFragIdx * o.aType1PayloadSize) s
    (lFragIdx, s) :: bundleSteps cfg clk o apData n (lFragIdx + sent.lFragsInBundle) sent.sender
  else []
termination_by n - lFragIdx
decreasing_by
  have hpos := bundleIteration_pos cfg clk o apData (lFragIdx * o.aType1PayloadSize) s _h
  omega

def superframeMoments (cfg : SenderConfig) (clk : SendClock) (o : Outgoing) (apData : List UInt8)
    (p : Packetization) (s : Sender) : List Moment :=
  (if cfg.mSubFragmentMode = .single then type1Moments clk o apData p.lNumType1Fragments
  else (bundleSteps cfg clk o apData p.lNumType1Fragments 0 s).flatMap fun step =>
    iterationMoments cfg clk o apData p.lNumType1Fragments step.1 step.2) ++
  tailMoments clk o apData p

def sendMoments (cfg : SenderConfig) (clk : SendClock) (s : Sender) (aData : List UInt8)
    (args : SendArgs) : List Moment :=
  if aData = [] ∨ aData.length > maxSuperframeSize then []
  else
    (if cfg.mRetentionMs > 0 then [.call (.evict clk.evict)] else []) ++
      if Sendable cfg aData then
        superframeMoments cfg clk ((s.evicted cfg clk).planned cfg aData args) aData
          (plan cfg aData.length).2 (s.evicted cfg clk).numbered
      else []

/-- Requests are taken until `aMaxCount` of them have been served, each before
the next is taken. -/
def retransmitMoments (aMaxCount : ℕ) : List RetransmitRequest → ℕ → Retention → List Moment
  | [], _, _ => []
  | _ :: rest, lCount, s =>
      if lCount < aMaxCount then
        .call .take :: (s.take.2.toList.map again ++
          retransmitMoments aMaxCount rest
            (if s.take.2.isSome then lCount + 1 else lCount) s.take.1)
      else []

def moments (cfg : SenderConfig) (s : Sender) : SenderCall → List Moment
  | .send clk aData args => s.sendMoments cfg clk aData args
  | .receiveNack aData => (Retention.nackCalls (nackEntries aData)).map .call
  | .processRetransmits aMaxCount =>
      retransmitMoments aMaxCount s.retention.mRetransmitQueue 0 s.retention

def log (cfg : SenderConfig) (s : Sender) (es : List SenderCall) : List Moment :=
  (Sender.machine cfg).flatten (fun s e => s.moments cfg e) s es

/-! ### What the log is a log of -/

/-- The log is one of these calls and these packets, and the fragments that are
taken with the calls are those it repeats, in this order. -/
structure Logs (cfg : SenderConfig) (s : Retention) (calls : List StoreCall)
    (packets : List Packet) (log : List Moment) : Prop where
  storeCall : log.filterMap Moment.storeCall = calls
  packet : log.filterMap Moment.packet = packets
  key : log.filterMap Moment.key = (s.sent cfg calls).filterMap Transmission.again

variable {cfg : SenderConfig}

theorem Logs.nil (s : Retention) : Logs cfg s [] [] [] := ⟨rfl, rfl, rfl⟩

theorem Logs.append {s : Retention} {calls calls' : List StoreCall} {packets packets' : List Packet}
    {log log' : List Moment} (h : Logs cfg s calls packets log)
    (h' : Logs cfg (s.after cfg calls) calls' packets' log') :
    Logs cfg s (calls ++ calls') (packets ++ packets') (log ++ log') where
  storeCall := by rw [List.filterMap_append, h.storeCall, h'.storeCall]
  packet := by rw [List.filterMap_append, h.packet, h'.packet]
  key := by
    rw [List.filterMap_append, h.key, h'.key, Retention.sent_append, List.filterMap_append]

theorem filterMap_call (calls : List StoreCall) :
    (calls.map Moment.call).filterMap Moment.storeCall = calls ∧
      (calls.map Moment.call).filterMap Moment.packet = [] ∧
      (calls.map Moment.call).filterMap Moment.key = [] := by
  simp only [List.filterMap_map]
  exact ⟨List.filterMap_some, List.filterMap_eq_nil_iff.mpr fun _ _ => rfl,
    List.filterMap_eq_nil_iff.mpr fun _ _ => rfl⟩

theorem filterMap_again (served : List (RetransmitRequest × RetainedFragment)) :
    (served.map again).filterMap Moment.storeCall = [] ∧
      (served.map again).filterMap Moment.packet = served.map (fun served => served.2.packet) ∧
      (served.map again).filterMap Moment.key = served.map (fun served => served.1.mKey) := by
  simp only [List.filterMap_map]
  exact ⟨List.filterMap_eq_nil_iff.mpr fun _ _ => rfl,
    congrFun List.filterMap_eq_map' _, congrFun List.filterMap_eq_map' _⟩

theorem again_sent (s : Retention) {calls : List StoreCall} (h : .take ∉ calls) :
    (s.sent cfg calls).filterMap Transmission.again = [] := by
  induction calls generalizing s with
  | nil => rfl
  | cons call calls ih =>
      rw [Retention.sent_cons, List.filterMap_append,
        ih _ fun hmem => h (List.mem_cons_of_mem _ hmem)]
      cases call with
      | take => exact absurd List.mem_cons_self h
      | evict | retain | request => rfl

theorem again_sent_take (s : Retention) :
    (s.sent cfg [.take]).filterMap Transmission.again =
      s.take.2.toList.map fun served => served.1.mKey := by
  rw [Retention.sent_cons, Retention.sent_nil, List.append_nil]
  simp only [Retention.machine]
  cases s.take.2 with
  | none => rfl
  | some served => rfl

theorem Logs.map_call (s : Retention) {calls : List StoreCall} (h : .take ∉ calls) :
    Logs cfg s calls [] (calls.map .call) where
  storeCall := (filterMap_call calls).1
  packet := (filterMap_call calls).2.1
  key := (filterMap_call calls).2.2.trans (again_sent s h).symm

theorem Logs.fragment (s : Retention) (clk : SendClock) (o : Outgoing) (aFragmentNo : UInt16)
    (data : List UInt8) :
    Logs cfg s [fragmentCall clk o.aSuperFrameNo aFragmentNo o.aStreamId data]
      [{ data, streamId := o.aStreamId }] (fragmentMoments clk o aFragmentNo data) :=
  ⟨rfl, rfl, rfl⟩

theorem logs_type1Moments (clk : SendClock) (o : Outgoing) (apData : List UInt8) (count : ℕ)
    (s : Retention) :
    Logs cfg s (type1Calls clk o apData count 0)
      ((List.range count).map fun k =>
        { data := o.packet1 apData k, streamId := o.aStreamId })
      (type1Moments clk o apData count) := by
  induction count with
  | zero => exact .nil s
  | succ count ih =>
      rw [type1Calls, type1Moments, List.range'_concat, List.map_append, List.range_succ,
        List.map_append, List.flatMap_append, List.flatMap_singleton, Nat.zero_add, Nat.one_mul]
      exact ih.append (.fragment _ clk o (UInt16.ofNat count) _)

theorem logs_tailMoments (clk : SendClock) (o : Outgoing) (apData : List UInt8) (p : Packetization)
    (s : Retention) :
    Logs cfg s (tailCalls clk o apData p)
      ((o.tail apData p).map fun data => { data, streamId := o.aStreamId })
      (tailMoments clk o apData p) := by
  rw [tailCalls, tailMoments, Outgoing.tail, List.map_append]
  apply Logs.append
  · split_ifs
    · exact .fragment s clk o _ _
    · exact .nil s
  · exact .fragment _ clk o _ _

/-! ### Bundles -/

theorem takeRetransmit_snd (s : Sender) (room : ℕ) :
    (s.takeRetransmit room).2 = (s.served room).map fun served => served.2.packet := by
  rw [takeRetransmit, served]
  split_ifs
  · exact s.getRetransmitFragment_eq.2
  · rfl

theorem aloneRetransmit_eq (o : Outgoing) (room : ℕ) (s : Sender) :
    s.aloneRetransmit o room = (s.servedAlone o room).map fun served => served.2.packet := by
  rw [aloneRetransmit, takeRetransmit_snd, servedAlone, Option.filter_map]
  rfl

theorem bundledRetransmit_eq (o : Outgoing) (room : ℕ) (s : Sender) :
    s.bundledRetransmit o room = (s.servedBundled o room).map fun served => served.2.packet := by
  rw [bundledRetransmit, takeRetransmit_snd, servedBundled, Option.filter_map]
  rfl

/-- The request that is taken for a bundle is served before the bundle or in it. -/
theorem again_takeCalls (o : Outgoing) (room : ℕ) (s : Sender) :
    (s.retention.sent cfg (s.takeCalls room)).filterMap Transmission.again =
      (s.servedAlone o room).toList.map (fun served => served.1.mKey) ++
        (s.servedBundled o room).toList.map fun served => served.1.mKey := by
  rw [servedAlone, servedBundled, served, takeCalls]
  split_ifs
  · rw [again_sent_take]
    cases s.retention.take.2 with
    | none => rfl
    | some served =>
        rw [Option.filter_some, Option.filter_some]
        by_cases hsize : served.2.mData.length = o.lType1FrameSize
        · simp [hsize]
        · simp [hsize]
  · rfl

theorem logs_iterationMoments (clk : SendClock) {o : Outgoing} {apData : List UInt8}
    {n lFragIdx : ℕ} (hdata : n * o.aType1PayloadSize ≤ apData.length) (h : lFragIdx < n)
    (s : Sender) :
    Logs cfg s.retention
      (s.takeCalls (bundleRoom cfg n lFragIdx) ++
        type1Calls clk o apData (fragsInBundle cfg clk o apData n lFragIdx s) lFragIdx)
      (bundleIteration cfg clk o apData n lFragIdx (lFragIdx * o.aType1PayloadSize) s).packets
      (iterationMoments cfg clk o apData n lFragIdx s) := by
  have hpackets := (bundleIteration_spec cfg clk hdata h s).packets
  obtain ⟨htake, htakePacket, htakeKey⟩ :=
    filterMap_call (s.takeCalls (bundleRoom cfg n lFragIdx))
  obtain ⟨hagain, hagainPacket, hagainKey⟩ :=
    filterMap_again (s.servedAlone o (bundleRoom cfg n lFragIdx)).toList
  obtain ⟨htype1, htype1Packet, htype1Key⟩ :=
    filterMap_call (type1Calls clk o apData (fragsInBundle cfg clk o apData n lFragIdx s) lFragIdx)
  refine ⟨?_, ?_, ?_⟩
  · simp only [iterationMoments, List.filterMap_append, htake, hagain, htype1, List.append_nil]
    exact congrArg (_ ++ ·) (List.append_nil _)
  · simp only [iterationMoments, List.filterMap_append, htakePacket, hagainPacket, htype1Packet,
      List.nil_append]
    rw [hpackets, aloneRetransmit_eq, Option.toList_map]
    rfl
  · simp only [iterationMoments, List.filterMap_append, htakeKey, hagainKey, htype1Key,
      List.nil_append, Retention.sent_append, again_takeCalls o,
      again_sent _ (take_notMem_type1Calls clk _ _), List.append_nil]
    congr 1
    cases s.servedBundled o (bundleRoom cfg n lFragIdx) <;> rfl

theorem logs_bundleSteps (cfg : SenderConfig) (clk : SendClock) {o : Outgoing}
    {apData : List UInt8} {n : ℕ} (hdata : n * o.aType1PayloadSize ≤ apData.length) (lFragIdx : ℕ) (s : Sender) :
    Logs cfg s.retention (bundleCalls cfg clk o apData n lFragIdx s)
      (bundleLoop cfg clk o apData n lFragIdx (lFragIdx * o.aType1PayloadSize) s).2
      ((bundleSteps cfg clk o apData n lFragIdx s).flatMap fun step =>
        iterationMoments cfg clk o apData n step.1 step.2) := by
  induction lFragIdx, s using bundleCalls.induct cfg clk o apData n with
  | case1 lFragIdx s h sent ih =>
      have hsent := bundleIteration_spec cfg clk hdata h s
      have hafter : sent.sender.retention =
          s.retention.after cfg (s.takeCalls (bundleRoom cfg n lFragIdx) ++
            type1Calls clk o apData sent.lFragsInBundle lFragIdx) := by
        rw [Retention.after_append, ← takeRetransmit_retention]
        exact hsent.retention
      rw [bundleLoop, bundleCalls, bundleSteps, dif_pos h, dif_pos h, dif_pos h, List.flatMap_cons,
        ← List.append_assoc]
      dsimp only
      rw [← Nat.add_mul]
      apply (logs_iterationMoments clk hdata h s).append
      change Logs cfg (s.retention.after cfg (s.takeCalls (bundleRoom cfg n lFragIdx) ++
        type1Calls clk o apData sent.lFragsInBundle lFragIdx)) _ _ _
      rw [← hafter]
      exact ih
  | case2 lFragIdx s h =>
      rw [bundleLoop, bundleCalls, bundleSteps, dif_neg h, dif_neg h, dif_neg h]
      exact .nil _

/-! ### The events -/

theorem logs_superframeMoments (clk : SendClock) (s : Sender) {aData : List UInt8}
    (h : Sendable cfg aData) (args : SendArgs) :
    Logs cfg s.retention
      (superframeCalls cfg clk (s.planned cfg aData args) aData (plan cfg aData.length).2
        s.numbered)
      (sendPlanned cfg clk s aData args).2
      (superframeMoments cfg clk (s.planned cfg aData args) aData (plan cfg aData.length).2
        s.numbered) := by
  have hdata : (plan cfg aData.length).2.lNumType1Fragments *
      (s.planned cfg aData args).aType1PayloadSize ≤ aData.length := by
    have hsize := h.cuts.size
    change _ * (plan cfg aData.length).1 ≤ _
    omega
  rw [(sendPlanned_spec clk s h args).2, superframeCalls, superframeMoments]
  apply Logs.append _ (logs_tailMoments clk _ aData _ _)
  split_ifs with hsingle
  · exact logs_type1Moments clk _ aData _ _
  · have hloop := logs_bundleSteps cfg clk hdata 0 s.numbered
    rwa [Nat.zero_mul] at hloop

theorem logs_sendMoments (clk : SendClock) (s : Sender) (aData : List UInt8) (args : SendArgs) :
    Logs cfg s.retention (s.sendCalls cfg clk aData args) (s.send cfg clk aData args).1.2
      (s.sendMoments cfg clk aData args) := by
  have hevict : Logs cfg s.retention (if cfg.mRetentionMs > 0 then [.evict clk.evict] else []) []
      (if cfg.mRetentionMs > 0 then [.call (.evict clk.evict)] else []) := by
    split_ifs
    · exact ⟨rfl, rfl, rfl⟩
    · exact .nil _
  rw [sendCalls, sendMoments]
  rcases send_cases cfg clk s aData args with ⟨h, hsend⟩ | ⟨h, res, -, hsend⟩
  · have hok : ¬ (aData = [] ∨ aData.length > maxSuperframeSize) :=
      not_or.mpr ⟨h.ne_nil, not_lt.mpr h.size_le⟩
    rw [hsend, if_neg hok, if_neg hok, if_pos h, if_pos h]
    apply hevict.append
    rw [← evicted_retention]
    exact logs_superframeMoments clk (s.evicted cfg clk) h args
  · rw [hsend, if_neg h, if_neg h, List.append_nil, List.append_nil]
    split_ifs
    · exact .nil _
    · exact ⟨rfl, rfl, rfl⟩
    · exact .nil _

theorem logs_retransmitMoments (aMaxCount : ℕ) (queue : List RetransmitRequest) (lCount : ℕ)
    (s : Sender) (hqueue : s.retention.mRetransmitQueue = queue) :
    Logs cfg s.retention (retransmitCalls aMaxCount queue lCount s.retention)
      (retransmitLoop aMaxCount queue lCount s).2
      (retransmitMoments aMaxCount queue lCount s.retention) := by
  induction queue generalizing lCount s with
  | nil => exact .nil _
  | cons lRequest rest ih =>
      have hrest := mRetransmitQueue_take hqueue
      by_cases hcount : lCount < aMaxCount
      · rw [retransmitLoop_cons hcount hqueue, retransmitCalls, retransmitMoments, if_pos hcount,
          if_pos hcount]
        cases htake : s.retention.take.2 with
        | none =>
            have hone : Logs cfg s.retention [.take] [] [.call .take] :=
              ⟨rfl, rfl, by rw [again_sent_take, htake]; rfl⟩
            exact hone.append (ih lCount { s with retention := s.retention.take.1 } hrest)
        | some served =>
            have hone : Logs cfg s.retention [.take] [served.2.packet]
                [.call .take, again served] :=
              ⟨rfl, rfl, by rw [again_sent_take, htake]; rfl⟩
            exact hone.append
              (ih (lCount + 1) { s with retention := s.retention.take.1 }.countRetransmit hrest)
      · rw [retransmitLoop, retransmitCalls, retransmitMoments, if_neg hcount, if_neg hcount,
          if_neg hcount]
        exact .nil _

theorem take_notMem_nackCalls (lEntries : List NackEntry) :
    .take ∉ Retention.nackCalls lEntries := by
  intro hmem
  obtain ⟨lEntry, -, hrange⟩ := List.mem_flatMap.mp hmem
  obtain ⟨lJ, -, heq⟩ := List.mem_map.mp hrange
  cases heq

theorem logs_step (s : Sender) (e : SenderCall) :
    Logs cfg s.retention (s.storeCalls cfg e) ((Sender.machine cfg).step s e).2
      (s.moments cfg e) := by
  cases e with
  | send clk aData args => exact logs_sendMoments clk s aData args
  | receiveNack aData => exact .map_call s.retention (take_notMem_nackCalls _)
  | processRetransmits aMaxCount => exact logs_retransmitMoments aMaxCount _ 0 s rfl

/-- The log of a run has the calls of the run and its packets, and repeats the
fragments that are taken. -/
theorem logs_run (cfg : SenderConfig) (s : Sender) (es : List SenderCall) :
    Logs cfg s.retention (s.trace cfg es) ((Sender.machine cfg).run s es).2 (s.log cfg es) := by
  induction es generalizing s with
  | nil => exact .nil _
  | cons e es ih =>
      apply (logs_step s e).append
      rw [← step_retention]
      exact ih _

end Sender

end ElasticFrame
