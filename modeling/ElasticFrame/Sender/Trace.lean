import ElasticFrame.Sender.Packets

/-!
The calls a sender makes on its containers, event by event, and what it
sends with each of them. A run of the sender is a run of the containers, and
its packets, taken apart where they are bundles, are what is sent with the
calls, in order.
-/

namespace ElasticFrame

open Lib

/-! ### Packets taken apart -/

/-- The packet is a Type4. -/
def IsBundle (data : List UInt8) : Prop := getFrameType (byteAt data 0) = some .type4

instance (data : List UInt8) : Decidable (IsBundle data) :=
  inferInstanceAs (Decidable (_ = _))

/-- The frames of a bundle, or the packet itself. -/
def frames (data : List UInt8) : List (List UInt8) :=
  if IsBundle data then
    let lFrameCount := (FrameType4.read data).mFrameCount.toNat
    let lFrameSize := (data.length - FrameType4.sizeof) / lFrameCount
    (List.range lFrameCount).map fun lI =>
      (data.drop (FrameType4.sizeof + lI * lFrameSize)).take lFrameSize
  else [data]

theorem frames_of_not {data : List UInt8} (h : ¬ IsBundle data) : frames data = [data] := if_neg h

theorem isBundle_bundle (o : Outgoing) (members : List (List UInt8)) :
    IsBundle (Sender.bundle o members).data :=
  getFrameType_makeFrameTypeByte .type4 o.aFlags

theorem frames_bundle (o : Outgoing) {members : List (List UInt8)} {size : ℕ}
    (hpos : 0 < members.length) (hcount : members.length < 256)
    (hlength : ∀ m ∈ members, m.length = size) :
    frames (Sender.bundle o members).data = members := by
  have hread : (FrameType4.read (Sender.bundle o members).data).mFrameCount.toNat =
      members.length := UInt8.toNat_ofNat_of_lt' hcount
  have htotal : (Sender.bundle o members).data.length - FrameType4.sizeof =
      members.length * size := by
    rw [Sender.bundle, List.length_append, FrameType4.length_bytes,
      length_flatten_of_forall hlength]
    exact Nat.add_sub_cancel_left _ _
  simp only [frames, if_pos (isBundle_bundle o members), hread, htotal,
    Nat.mul_div_cancel_left _ hpos]
  refine Eq.trans ?_ (pieces_flatten hlength)
  apply List.map_congr_left
  intro lI _
  rw [← List.drop_drop]
  rfl

/-! ### The calls of an event -/

def RetainedFragment.packet (f : RetainedFragment) : Packet where
  data := f.mData
  streamId := f.mStreamId

namespace Sender

def takeCalls (s : Sender) (room : ℕ) : List StoreCall :=
  if s.retention.mRetransmitQueue ≠ [] ∧ room > 1 then [.take] else []

def bundleCalls (cfg : SenderConfig) (clk : SendClock) (o : Outgoing) (apData : List UInt8)
    (n lFragIdx : ℕ) (s : Sender) : List StoreCall :=
  if _h : lFragIdx < n then
    let sent :=
      bundleIteration cfg clk o apData n lFragIdx (lFragIdx * o.aType1PayloadSize) s
    s.takeCalls (bundleRoom cfg n lFragIdx) ++
      (type1Calls clk o apData sent.lFragsInBundle lFragIdx ++
        bundleCalls cfg clk o apData n (lFragIdx + sent.lFragsInBundle) sent.sender)
  else []
termination_by n - lFragIdx
decreasing_by
  have hpos := bundleIteration_pos cfg clk o apData (lFragIdx * o.aType1PayloadSize) s _h
  omega

def superframeCalls (cfg : SenderConfig) (clk : SendClock) (o : Outgoing) (apData : List UInt8)
    (p : Packetization) (s : Sender) : List StoreCall :=
  (if cfg.mSubFragmentMode = .single then type1Calls clk o apData p.lNumType1Fragments 0
  else bundleCalls cfg clk o apData p.lNumType1Fragments 0 s) ++ tailCalls clk o apData p

instance (cfg : SenderConfig) (aData : List UInt8) : Decidable (Sendable cfg aData) :=
  decidable_of_iff (aData ≠ [] ∧ aData.length ≤ maxSuperframeSize ∧
    (plan cfg aData.length).2.lTotalFragments ≤ maxFragmentsPerSuperframe)
    ⟨fun h => ⟨h.1, h.2.1, h.2.2⟩, fun h => ⟨h.1, h.2, h.3⟩⟩

def sendCalls (cfg : SenderConfig) (clk : SendClock) (s : Sender) (aData : List UInt8)
    (args : SendArgs) : List StoreCall :=
  if aData = [] ∨ aData.length > maxSuperframeSize then []
  else
    (if cfg.mRetentionMs > 0 then [.evict clk.evict] else []) ++
      if Sendable cfg aData then
        superframeCalls cfg clk ((s.evicted cfg clk).planned cfg aData args) aData
          (plan cfg aData.length).2 (s.evicted cfg clk).numbered
      else []

/-- The entries of a NACK, none if the header is refused. -/
def nackEntries (aData : List UInt8) : List NackEntry :=
  let lpHeader := FrameType0Nack.read aData
  if aData.length < FrameType0Nack.sizeof ∨ getFrameType lpHeader.mFrameType ≠ some .type0 ∨
      lpHeader.mSubtype ≠ type0SubtypeNack ∨
      aData.length ≠ FrameType0Nack.sizeof + lpHeader.mNackCount.toNat * NackEntry.sizeof then []
  else
    (List.range lpHeader.mNackCount.toNat).map fun lI =>
      NackEntry.read (aData.drop (FrameType0Nack.sizeof + lI * NackEntry.sizeof))

/-- Requests are taken until `aMaxCount` of them have been served. -/
def retransmitCalls (aMaxCount : ℕ) :
    List RetransmitRequest → ℕ → Retention → List StoreCall
  | [], _, _ => []
  | _ :: rest, lCount, s =>
      if lCount < aMaxCount then
        .take :: retransmitCalls aMaxCount rest
          (if s.take.2.isSome then lCount + 1 else lCount) s.take.1
      else []

def storeCalls (cfg : SenderConfig) (s : Sender) : SenderCall → List StoreCall
  | .send clk aData args => s.sendCalls cfg clk aData args
  | .receiveNack aData => Retention.nackCalls (nackEntries aData)
  | .processRetransmits aMaxCount =>
      retransmitCalls aMaxCount s.retention.mRetransmitQueue 0 s.retention

/-! ### The containers follow the calls -/

variable {cfg : SenderConfig}

theorem getRetransmitFragment_eq (s : Sender) :
    s.getRetransmitFragment.1.retention = s.retention.take.1 ∧
      s.getRetransmitFragment.2 = s.retention.take.2.map fun served => served.2.packet := by
  rw [getRetransmitFragment, Retention.take]
  cases s.retention.mRetransmitQueue with
  | nil => exact ⟨rfl, rfl⟩
  | cons lRequest rest =>
      dsimp only
      cases (s.retention.pop lRequest rest).live lRequest.mKey lRequest.mGeneration with
      | none => exact ⟨rfl, rfl⟩
      | some f => exact ⟨rfl, rfl⟩

theorem takeRetransmit_retention (s : Sender) (room : ℕ) :
    (s.takeRetransmit room).1.retention = s.retention.after cfg (s.takeCalls room) := by
  rw [takeRetransmit, takeCalls]
  split_ifs
  · exact s.getRetransmitFragment_eq.1
  · rfl

theorem bundleLoop_retention (cfg : SenderConfig) (clk : SendClock) (o : Outgoing) {apData : List UInt8} {n : ℕ}
    (hdata : n * o.aType1PayloadSize ≤ apData.length) (lFragIdx : ℕ) (s : Sender) :
    (bundleLoop cfg clk o apData n lFragIdx (lFragIdx * o.aType1PayloadSize) s).1.retention =
      s.retention.after cfg (bundleCalls cfg clk o apData n lFragIdx s) := by
  induction lFragIdx, s using bundleCalls.induct cfg clk o apData n with
  | case1 lFragIdx s h sent ih =>
      have hsent := bundleIteration_spec cfg clk hdata h s
      rw [bundleLoop, bundleCalls, dif_pos h, dif_pos h]
      dsimp only
      rw [← Nat.add_mul, ih, Retention.after_append, Retention.after_append,
        ← takeRetransmit_retention, hsent.retention]
  | case2 lFragIdx s h =>
      rw [bundleLoop, bundleCalls, dif_neg h, dif_neg h]
      rfl

/-- A superframe is sent: first what leaves the loop of the mode, then the
tail. -/
theorem sendPlanned_spec (clk : SendClock) (s : Sender) {aData : List UInt8}
    (h : Sendable cfg aData) (args : SendArgs) :
    (sendPlanned cfg clk s aData args).1.retention =
        s.retention.after cfg (superframeCalls cfg clk (s.planned cfg aData args) aData
          (plan cfg aData.length).2 s.numbered) ∧
      (sendPlanned cfg clk s aData args).2 =
        (if cfg.mSubFragmentMode = .single then
          (List.range (plan cfg aData.length).2.lNumType1Fragments).map fun k =>
            { data := (s.planned cfg aData args).packet1 aData k, streamId := args.aStreamId }
        else
          (bundleLoop cfg clk (s.planned cfg aData args) aData
            (plan cfg aData.length).2.lNumType1Fragments 0 0 s.numbered).2) ++
        ((s.planned cfg aData args).tail aData (plan cfg aData.length).2).map fun data =>
          { data, streamId := args.aStreamId } := by
  have hcuts := h.cuts
  have hdata : (plan cfg aData.length).2.lNumType1Fragments * (plan cfg aData.length).1 ≤
      aData.length := by
    have hsize := hcuts.size
    omega
  rw [sendPlanned, superframeCalls, Retention.after_append]
  split_ifs with hsingle
  · have hloop := type1Loop_spec cfg clk (s.planned cfg aData args) aData
      (plan cfg aData.length).2.lNumType1Fragments 0 s.numbered
      (fun hpos => by
        rw [← (type1FrameSize_spec cfg).2.1 hsingle, ← plan_fst hpos]
        rfl)
      (by rw [Nat.zero_add]; exact hdata)
    have htail := sendTail_spec cfg clk (s.planned cfg aData args) hcuts
      (type1Loop cfg clk (s.planned cfg aData args) aData
        (plan cfg aData.length).2.lNumType1Fragments 0 0 s.numbered).1
    rw [Nat.zero_mul] at hloop
    rw [sendFragmentedSingle]
    dsimp only
    rw [htail.1, htail.2, hloop.1, hloop.2, List.range_eq_range']
    exact ⟨rfl, rfl⟩
  · have hloop := bundleLoop_retention cfg clk (s.planned cfg aData args) hdata 0
      s.numbered
    have htail := sendTail_spec cfg clk (s.planned cfg aData args) hcuts
      (bundleLoop cfg clk (s.planned cfg aData args) aData
        (plan cfg aData.length).2.lNumType1Fragments 0 0 s.numbered).1
    rw [Nat.zero_mul] at hloop
    rw [sendFragmentedBundled]
    dsimp only
    rw [htail.1, htail.2, hloop]
    exact ⟨rfl, rfl⟩

theorem evicted_retention (clk : SendClock) (s : Sender) :
    (s.evicted cfg clk).retention =
      s.retention.after cfg (if cfg.mRetentionMs > 0 then [.evict clk.evict] else []) := by
  rw [evicted]
  split_ifs <;> rfl

theorem send_retention (clk : SendClock) (s : Sender) (aData : List UInt8) (args : SendArgs) :
    (s.send cfg clk aData args).1.1.retention =
      s.retention.after cfg (s.sendCalls cfg clk aData args) := by
  rw [sendCalls]
  rcases send_cases cfg clk s aData args with ⟨h, hsend⟩ | ⟨h, res, -, hsend⟩
  · have hok : ¬ (aData = [] ∨ aData.length > maxSuperframeSize) :=
      not_or.mpr ⟨h.ne_nil, not_lt.mpr h.size_le⟩
    rw [hsend, if_neg hok, if_pos h, Retention.after_append, ← evicted_retention]
    exact (sendPlanned_spec clk _ h args).1
  · rw [hsend, if_neg h, List.append_nil]
    by_cases hrefused : aData = [] ∨ aData.length > maxSuperframeSize
    · rw [if_pos hrefused, if_pos hrefused]
      rfl
    · rw [if_neg hrefused, if_neg hrefused]
      exact evicted_retention clk s

theorem receiveNack_retention (s : Sender) (aData : List UInt8) :
    (s.receiveNack aData).1.retention =
      s.retention.after cfg (Retention.nackCalls (nackEntries aData)) := by
  rw [receiveNack, nackEntries]
  dsimp only
  by_cases hsize : aData.length < FrameType0Nack.sizeof
  · rw [if_pos hsize, if_pos (.inl hsize)]
    rfl
  by_cases htype : getFrameType (FrameType0Nack.read aData).mFrameType ≠ some .type0
  · rw [if_neg hsize, if_pos htype, if_pos (.inr (.inl htype))]
    rfl
  by_cases hsubtype : (FrameType0Nack.read aData).mSubtype ≠ type0SubtypeNack
  · rw [if_neg hsize, if_neg htype, if_pos hsubtype, if_pos (.inr (.inr (.inl hsubtype)))]
    rfl
  by_cases hlength : aData.length ≠
      FrameType0Nack.sizeof + (FrameType0Nack.read aData).mNackCount.toNat * NackEntry.sizeof
  · rw [if_neg hsize, if_neg htype, if_neg hsubtype, if_pos hlength,
      if_pos (.inr (.inr (.inr hlength)))]
    rfl
  · rw [if_neg hsize, if_neg htype, if_neg hsubtype, if_neg hlength,
      if_neg (not_or.mpr ⟨hsize, not_or.mpr ⟨htype, not_or.mpr ⟨hsubtype, hlength⟩⟩⟩)]
    exact Retention.requestEntries_eq _ s.retention

theorem retransmitLoop_cons {aMaxCount lCount : ℕ} (hcount : lCount < aMaxCount)
    {lRequest : RetransmitRequest} {rest : List RetransmitRequest} {s : Sender}
    (hqueue : s.retention.mRetransmitQueue = lRequest :: rest) :
    retransmitLoop aMaxCount (lRequest :: rest) lCount s =
      match s.retention.take.2 with
      | none => retransmitLoop aMaxCount rest lCount { s with retention := s.retention.take.1 }
      | some served =>
          let next :=
            retransmitLoop aMaxCount rest (lCount + 1)
              { s with retention := s.retention.take.1 }.countRetransmit
          (next.1, served.2.packet :: next.2) := by
  rw [retransmitLoop, if_pos hcount, Retention.take_cons hqueue]
  dsimp only
  cases (s.retention.pop lRequest rest).live lRequest.mKey lRequest.mGeneration with
  | none => rfl
  | some f => rfl

theorem mRetransmitQueue_take {s : Retention} {lRequest : RetransmitRequest}
    {rest : List RetransmitRequest} (hqueue : s.mRetransmitQueue = lRequest :: rest) :
    s.take.1.mRetransmitQueue = rest := by
  rw [Retention.take_cons hqueue]
  cases (s.pop lRequest rest).live lRequest.mKey lRequest.mGeneration with
  | none => rfl
  | some f => rfl

theorem retransmitLoop_spec (cfg : SenderConfig) (aMaxCount : ℕ) (queue : List RetransmitRequest)
    (lCount : ℕ) (s : Sender) (hqueue : s.retention.mRetransmitQueue = queue) :
    (retransmitLoop aMaxCount queue lCount s).1.retention =
        s.retention.after cfg (retransmitCalls aMaxCount queue lCount s.retention) ∧
      (retransmitLoop aMaxCount queue lCount s).2.map Packet.data =
        (s.retention.sent cfg (retransmitCalls aMaxCount queue lCount s.retention)).map
          Transmission.data := by
  induction queue generalizing lCount s with
  | nil => exact ⟨rfl, rfl⟩
  | cons lRequest rest ih =>
      have hrest := mRetransmitQueue_take hqueue
      rw [retransmitCalls]
      by_cases hcount : lCount < aMaxCount
      · rw [retransmitLoop_cons hcount hqueue, if_pos hcount, Retention.after_cons,
          Retention.sent_cons]
        simp only [Retention.machine]
        cases htake : s.retention.take.2 with
        | none =>
            exact ih lCount { s with retention := s.retention.take.1 } hrest
        | some served =>
            obtain ⟨hretention, hsent⟩ :=
              ih (lCount + 1) { s with retention := s.retention.take.1 }.countRetransmit hrest
            refine ⟨hretention, ?_⟩
            exact congrArg (served.2.mData :: ·) hsent
      · rw [retransmitLoop, if_neg hcount, if_neg hcount]
        exact ⟨rfl, rfl⟩

/-- The containers of the sender after an event are those after its calls. -/
theorem step_retention (cfg : SenderConfig) (s : Sender) (e : SenderCall) :
    ((Sender.machine cfg).step s e).1.retention = s.retention.after cfg (s.storeCalls cfg e) := by
  cases e with
  | send clk aData args => exact send_retention clk s aData args
  | receiveNack aData => exact receiveNack_retention s aData
  | processRetransmits aMaxCount =>
      exact (retransmitLoop_spec cfg aMaxCount _ 0 s rfl).1

def trace (cfg : SenderConfig) (s : Sender) (es : List SenderCall) : List StoreCall :=
  (Sender.machine cfg).flatten (fun s e => s.storeCalls cfg e) s es

theorem run_retention (cfg : SenderConfig) (s : Sender) (es : List SenderCall) :
    ((Sender.machine cfg).run s es).1.retention = s.retention.after cfg (s.trace cfg es) :=
  (Sender.machine cfg).run_flatten_part (Retention.machine cfg) Sender.retention _
    (step_retention cfg) s es

/-! ### The fragments among the calls -/

def fragmentCalls (clk : SendClock) (o : Outgoing) (fragments : List (List UInt8)) :
    List StoreCall :=
  fragments.mapIdx fun k data =>
    fragmentCall clk o.aSuperFrameNo (UInt16.ofNat k) o.aStreamId data

theorem filter_takeCalls (s : Sender) (room : ℕ) :
    (s.takeCalls room).filter StoreCall.isRetain = [] := by
  rw [takeCalls]
  split_ifs <;> rfl

theorem filter_type1Calls (clk : SendClock) (o : Outgoing) (apData : List UInt8)
    (count lFragNo : ℕ) :
    (type1Calls clk o apData count lFragNo).filter StoreCall.isRetain =
      type1Calls clk o apData count lFragNo := by
  apply List.filter_eq_self.mpr
  intro call hcall
  obtain ⟨k, -, rfl⟩ := List.mem_map.mp hcall
  rfl

theorem filter_bundleCalls (cfg : SenderConfig) (clk : SendClock) {o : Outgoing}
    {apData : List UInt8} {n : ℕ} (hdata : n * o.aType1PayloadSize ≤ apData.length)
    (lFragIdx : ℕ) (s : Sender) :
    (bundleCalls cfg clk o apData n lFragIdx s).filter StoreCall.isRetain =
      type1Calls clk o apData (n - lFragIdx) lFragIdx := by
  induction lFragIdx, s using bundleCalls.induct cfg clk o apData n with
  | case1 lFragIdx s h sent ih =>
      have hwithin := (bundleIteration_spec cfg clk hdata h s).within
      have hsplit : n - lFragIdx = sent.lFragsInBundle + (n - (lFragIdx + sent.lFragsInBundle)) := by
        change lFragIdx + sent.lFragsInBundle ≤ n at hwithin
        omega
      rw [bundleCalls, dif_pos h, List.filter_append, List.filter_append, filter_takeCalls,
        filter_type1Calls, List.nil_append]
      rw [ih, hsplit, type1Calls, type1Calls, type1Calls, ← List.map_append,
        List.range'_append_1]
  | case2 lFragIdx s h =>
      rw [bundleCalls, dif_neg h, Nat.sub_eq_zero_of_le (not_lt.mp h)]
      rfl

/-- The tail carries the numbers behind those of the Type1 fragments. -/
theorem tailCalls_eq (clk : SendClock) {o : Outgoing} {apData : List UInt8} {p : Packetization}
    (hof : o.aOfFragmentNo = UInt16.ofNat (p.lTotalFragments - 1))
    (htotal : p.lTotalFragments = p.lNumType1Fragments + (if p.lNeedsType3 then 2 else 1)) :
    tailCalls clk o apData p = (o.tail apData p).mapIdx fun i data =>
      fragmentCall clk o.aSuperFrameNo (UInt16.ofNat (i + p.lNumType1Fragments)) o.aStreamId
        data := by
  cases hneeds : p.lNeedsType3 with
  | false =>
      rw [hneeds, if_neg Bool.false_ne_true] at htotal
      rw [htotal, Nat.add_sub_cancel] at hof
      rw [tailCalls, Outgoing.tail, hneeds, hof]
      simp
  | true =>
      rw [hneeds, if_pos rfl] at htotal
      rw [htotal, show p.lNumType1Fragments + 2 - 1 = p.lNumType1Fragments + 1 by omega,
        UInt16.ofNat_add, UInt16.ofNat_one] at hof
      rw [tailCalls, Outgoing.tail, hneeds, hof, UInt16.add_sub_cancel]
      simp [UInt16.add_comm 1]

/-- The fragments of a superframe are retained one after another, under
their numbers. -/
theorem filter_superframeCalls (cfg : SenderConfig) (clk : SendClock) {s : Sender}
    {aData : List UInt8} (h : Sendable cfg aData) (args : SendArgs) (s' : Sender) :
    (superframeCalls cfg clk (s.planned cfg aData args) aData (plan cfg aData.length).2
        s').filter StoreCall.isRetain =
      fragmentCalls clk (s.planned cfg aData args)
        ((s.planned cfg aData args).fragments aData (plan cfg aData.length).2) := by
  have hcuts := h.cuts
  have hdata : (plan cfg aData.length).2.lNumType1Fragments *
      (s.planned cfg aData args).aType1PayloadSize ≤ aData.length := by
    have hsize := hcuts.size
    change _ * (plan cfg aData.length).1 ≤ _
    omega
  have hloop : (if cfg.mSubFragmentMode = .single then
      type1Calls clk (s.planned cfg aData args) aData (plan cfg aData.length).2.lNumType1Fragments 0
      else bundleCalls cfg clk (s.planned cfg aData args) aData
        (plan cfg aData.length).2.lNumType1Fragments 0 s').filter StoreCall.isRetain =
      type1Calls clk (s.planned cfg aData args) aData
        (plan cfg aData.length).2.lNumType1Fragments 0 := by
    split_ifs
    · exact filter_type1Calls ..
    · exact filter_bundleCalls cfg clk hdata 0 s'
  have htail : (tailCalls clk (s.planned cfg aData args) aData
      (plan cfg aData.length).2).filter StoreCall.isRetain =
      tailCalls clk (s.planned cfg aData args) aData (plan cfg aData.length).2 := by
    rw [List.filter_eq_self, tailCalls_eq clk rfl hcuts.total]
    intro call hcall
    obtain ⟨i, hi, rfl⟩ := List.mem_mapIdx.mp hcall
    rfl
  have htype1 : ∀ (f : ℕ → List UInt8 → StoreCall) (g : ℕ → List UInt8) (n : ℕ),
      ((List.range n).map g).mapIdx f = (List.range' 0 n).map fun k => f k (g k) := by
    intro f g n
    apply List.ext_getElem (by simp)
    intro i _ _
    simp
  rw [superframeCalls, List.filter_append, hloop, htail, fragmentCalls, Outgoing.fragments,
    List.mapIdx_append, htype1, tailCalls_eq clk rfl hcuts.total, List.length_map,
    List.length_range]
  rfl

theorem length_fragments (o : Outgoing) (apData : List UInt8) {p : Packetization}
    (htotal : p.lTotalFragments = p.lNumType1Fragments + (if p.lNeedsType3 then 2 else 1)) :
    (o.fragments apData p).length = p.lTotalFragments := by
  rw [Outgoing.fragments, Outgoing.tail, List.length_append, List.length_map, List.length_range,
    List.length_append, htotal]
  split_ifs <;> rfl

/-- A `send` retains the fragments of its superframe, if it takes the data. -/
theorem filter_sendCalls (cfg : SenderConfig) (clk : SendClock) (s : Sender) (aData : List UInt8)
    (args : SendArgs) :
    (s.sendCalls cfg clk aData args).filter StoreCall.isRetain =
      if Sendable cfg aData then
        fragmentCalls clk ((s.evicted cfg clk).planned cfg aData args)
          (((s.evicted cfg clk).planned cfg aData args).fragments aData
            (plan cfg aData.length).2)
      else [] := by
  have hevict : (if cfg.mRetentionMs > 0 then [StoreCall.evict clk.evict] else []).filter
      StoreCall.isRetain = [] := by
    split_ifs <;> rfl
  rw [sendCalls]
  by_cases hrefused : aData = [] ∨ aData.length > maxSuperframeSize
  · rw [if_pos hrefused, if_neg fun h => hrefused.elim h.ne_nil (not_lt.mpr h.size_le)]
    rfl
  · rw [if_neg hrefused, List.filter_append, hevict, List.nil_append]
    split_ifs with hsendable
    · exact filter_superframeCalls cfg clk hsendable args _
    · rfl

/-- What holds for the fragments of every superframe holds for all that is
to be retained in a run. -/
theorem forall_entries {cfg : SenderConfig} {P : UInt32 → UInt8 → List UInt8 → Prop}
    (h : ∀ (s : Sender) (aData : List UInt8) (args : SendArgs), Sendable cfg aData →
      ∀ (k : ℕ) (data : List UInt8),
        ((s.planned cfg aData args).fragments aData (plan cfg aData.length).2)[k]? = some data →
          P (makeRetentionKey s.mSuperFrameNo (UInt16.ofNat k)) args.aStreamId data)
    (s : Sender) (es : List SenderCall) : ∀ call ∈ s.trace cfg es, call.Enters P := by
  apply Machine.forall_flatten
  intro s e _ call hcall
  cases call with
  | evict => trivial
  | request => trivial
  | take => trivial
  | retain lNow mTimestampUs aSuperFrameNo aFragmentNo aStreamId apData =>
      cases e with
      | receiveNack aData =>
          obtain ⟨lEntry, -, hrange⟩ := List.mem_flatMap.mp hcall
          obtain ⟨lJ, -, hrequest⟩ := List.mem_map.mp hrange
          cases hrequest
      | processRetransmits aMaxCount =>
          have htakes : ∀ (queue : List RetransmitRequest) (lCount : ℕ) (s : Retention),
              ∀ call ∈ retransmitCalls aMaxCount queue lCount s, call = .take := by
            intro queue
            induction queue with
            | nil => exact fun _ _ _ hmem => absurd hmem List.not_mem_nil
            | cons lRequest rest ih =>
                intro lCount s call hmem
                rw [retransmitCalls] at hmem
                split_ifs at hmem
                · rcases List.mem_cons.mp hmem with rfl | hmem
                  · rfl
                  · exact ih _ _ call hmem
                · rcases List.mem_cons.mp hmem with rfl | hmem
                  · rfl
                  · exact ih _ _ call hmem
                · exact absurd hmem List.not_mem_nil
          cases htakes _ _ _ _ hcall
      | send clk aData args =>
          have hretain := List.mem_filter.mpr ⟨hcall, (rfl : StoreCall.isRetain (.retain lNow
            mTimestampUs aSuperFrameNo aFragmentNo aStreamId apData) = true)⟩
          rw [storeCalls, filter_sendCalls] at hretain
          split_ifs at hretain with hsendable
          · obtain ⟨k, hk, heq⟩ := List.mem_mapIdx.mp hretain
            cases heq
            exact h (s.evicted cfg clk) aData args hsendable k _ (List.getElem?_eq_getElem hk)
          · exact absurd hretain List.not_mem_nil

theorem forall_trace {cfg : SenderConfig} {P : UInt32 → List UInt8 → Prop}
    (h : ∀ (s : Sender) (aData : List UInt8) (args : SendArgs), Sendable cfg aData →
      ∀ (k : ℕ) (data : List UInt8),
        ((s.planned cfg aData args).fragments aData (plan cfg aData.length).2)[k]? = some data →
          P (makeRetentionKey s.mSuperFrameNo (UInt16.ofNat k)) data)
    (s : Sender) (es : List SenderCall) : ∀ call ∈ s.trace cfg es, call.Makes P :=
  fun call hcall => StoreCall.makes_iff.mpr (forall_entries h s es call hcall)

end Sender

/-! ### Sample inputs

For the witnesses and counterexamples of the modules that follow. -/

namespace Sample

def sendArgs : SendArgs where
  aPayloadType := 0
  aPts := 0
  aDts := 0
  aPayloadCode := 0
  aStreamId := 1
  aFlags := 0

/-- A clock that stands still. -/
def clockAt (lNow : ℤ) : SendClock where
  evict := lNow
  retainEvict _ := lNow
  stamp _ := lNow

def sendAt (lNow : ℤ) (aSize : ℕ) : SenderCall :=
  .send (clockAt lNow) (List.replicate aSize 7) sendArgs

/-- A NACK for fragment 0 of superframe 0 of the stream of `sendAt`. -/
def nack : List UInt8 := [0, 1, 1, 1, 0, 0, 0, 0, 0]

end Sample

end ElasticFrame
