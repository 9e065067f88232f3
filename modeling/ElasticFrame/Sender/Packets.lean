import ElasticFrame.Sender.Send
import ElasticFrame.Sender.Store
import ElasticFrame.Lib.Lists

/-!
What a superframe is cut into, packet by packet, and what its fragments are
retained as. The buffers a packet is put together in do not show in it: every
byte of a packet has been written for it.
-/

namespace ElasticFrame

open Lib

theorem length_chunk (apData : List UInt8) (off len : ℕ) (h : off + len ≤ apData.length) :
    (chunk apData off len).length = len := by
  rw [chunk, List.length_take, List.length_drop]
  omega

/-! ### The cut -/

/-- The fragments make up the data, and each of them has its room. -/
structure Packetization.Cuts (p : Packetization) (mMtu aType1PayloadSize aSize : ℕ) : Prop where
  size : p.lNumType1Fragments * aType1PayloadSize + p.lType3DataSize + p.lType2DataSize = aSize
  total : p.lTotalFragments = p.lNumType1Fragments + (if p.lNeedsType3 then 2 else 1)
  type2_pos : 0 < p.lType2DataSize
  type2_le : p.lType2DataSize + FrameType2.sizeof ≤ mMtu
  type3_le : p.lType3DataSize ≤ aType1PayloadSize
  type3_pos : p.lNeedsType3 = true ↔ 0 < p.lType3DataSize

theorem packetize_cuts {mMtu aType1PayloadSize aSize : ℕ} (hmtu : 256 ≤ mMtu)
    (hpos : 0 < aType1PayloadSize) (hsize : 0 < aSize) :
    (packetize mMtu aType1PayloadSize aSize).Cuts mMtu aType1PayloadSize aSize := by
  have hdiv := Nat.div_add_mod' aSize aType1PayloadSize
  have hmod := Nat.mod_lt aSize hpos
  have h27 : FrameType2.sizeof = 27 := rfl
  unfold packetize
  generalize aSize / aType1PayloadSize = q at hdiv ⊢
  generalize aSize % aType1PayloadSize = rem at hdiv hmod ⊢
  -- the last Type1 of a perfect fit is sent as something else
  have hpred : rem = 0 →
      (q - 1) * aType1PayloadSize + aType1PayloadSize = aSize ∧ 0 < q := by
    intro hzero
    have hq : q ≠ 0 := by
      rintro rfl
      omega
    refine ⟨?_, by omega⟩
    rw [← Nat.succ_mul, Nat.succ_eq_add_one, Nat.sub_add_cancel (by omega)]
    omega
  simp only
  split_ifs with hzero hfit hfit hcombined
  · obtain ⟨hlast, hq⟩ := hpred hzero
    refine ⟨?_, ?_, ?_, ?_, ?_, ?_⟩ <;> simp only [Bool.false_eq_true, if_false, false_iff] <;>
      omega
  · obtain ⟨hlast, hq⟩ := hpred hzero
    refine ⟨?_, ?_, ?_, ?_, ?_, ?_⟩ <;> simp only [if_true, true_iff] <;> omega
  · refine ⟨?_, ?_, ?_, ?_, ?_, ?_⟩ <;> simp only [Bool.false_eq_true, if_false, false_iff] <;>
      omega
  · refine ⟨?_, ?_, ?_, ?_, ?_, ?_⟩ <;> simp only [if_true, true_iff] <;> omega
  · omega

/-! ### What `send` does -/

namespace Sender

/-- A Type1 fragment has room for payload in every mode, and as many of them
as a bundle holds fit the MTU behind its header. -/
theorem type1FrameSize_spec (cfg : SenderConfig) :
    FrameType1.sizeof < type1FrameSize cfg ∧
      (cfg.mSubFragmentMode = .single → type1FrameSize cfg = cfg.mMtu) ∧
      (cfg.mSubFragmentMode ≠ .single → FrameType4.sizeof +
        cfg.mSubFragmentMode.bundleSize * type1FrameSize cfg ≤ cfg.mMtu) := by
  have hmtu := cfg.mtu_ge
  have h8 : FrameType1.sizeof = 8 := rfl
  have h2 : FrameType4.sizeof = 2 := rfl
  rw [type1FrameSize, h8, h2]
  cases cfg.mSubFragmentMode with
  | single =>
      rw [if_pos rfl]
      exact ⟨by omega, fun _ => rfl, fun h => absurd rfl h⟩
  | half =>
      rw [if_neg (by decide)]
      simp only [SubFragmentMode.bundleSize]
      exact ⟨by omega, fun h => (by cases h), fun _ => by omega⟩
  | quarter =>
      rw [if_neg (by decide)]
      simp only [SubFragmentMode.bundleSize]
      exact ⟨by omega, fun h => (by cases h), fun _ => by omega⟩
  | eighth =>
      rw [if_neg (by decide)]
      simp only [SubFragmentMode.bundleSize]
      exact ⟨by omega, fun h => (by cases h), fun _ => by omega⟩

/-- The size of the Type1 payload and the cut `send` settles on: what fits a
Type2 is a superframe of one fragment. -/
def plan (cfg : SenderConfig) (aSize : ℕ) : ℕ × Packetization :=
  if aSize ≤ cfg.mMtu - FrameType2.sizeof then
    (0,
      { lTotalFragments := 1
        lNumType1Fragments := 0
        lNeedsType3 := false
        lType3DataSize := 0
        lType2DataSize := aSize })
  else (type1PayloadSize cfg, packetize cfg.mMtu (type1PayloadSize cfg) aSize)

theorem plan_cuts (cfg : SenderConfig) {aSize : ℕ} (hsize : 0 < aSize) :
    (plan cfg aSize).2.Cuts cfg.mMtu (plan cfg aSize).1 aSize := by
  have hmtu := cfg.mtu_ge
  have h27 : FrameType2.sizeof = 27 := rfl
  rw [plan]
  split_ifs with hsmall
  · refine ⟨?_, rfl, hsize, ?_, Nat.le_refl 0, by simp⟩ <;> dsimp only <;> omega
  · exact packetize_cuts hmtu (Nat.sub_pos_of_lt (type1FrameSize_spec cfg).1) hsize

/-- Where there are Type1 fragments, they have the size the mode gives them. -/
theorem plan_fst {cfg : SenderConfig} {aSize : ℕ} (h : 0 < (plan cfg aSize).2.lNumType1Fragments) :
    FrameType1.sizeof + (plan cfg aSize).1 = type1FrameSize cfg := by
  rw [plan] at h ⊢
  split_ifs at h ⊢
  · exact absurd h (Nat.lt_irrefl 0)
  · exact Nat.add_sub_cancel' (type1FrameSize_spec cfg).1.le

/-- The data is of a size the sender takes. -/
structure Sendable (cfg : SenderConfig) (aData : List UInt8) : Prop where
  ne_nil : aData ≠ []
  size_le : aData.length ≤ maxSuperframeSize
  total_le : (plan cfg aData.length).2.lTotalFragments ≤ maxFragmentsPerSuperframe

theorem Sendable.cuts {cfg : SenderConfig} {aData : List UInt8} (h : Sendable cfg aData) :
    (plan cfg aData.length).2.Cuts cfg.mMtu (plan cfg aData.length).1 aData.length :=
  plan_cuts cfg (List.length_pos_iff.mpr h.ne_nil)

/-- What the fragments of the planned superframe have in common. -/
def planned (cfg : SenderConfig) (s : Sender) (aData : List UInt8) (args : SendArgs) : Outgoing :=
  s.outgoing args (plan cfg aData.length).1 (plan cfg aData.length).2

/-- The superframe is sent, whatever its fragments. -/
def sendPlanned (cfg : SenderConfig) (clk : SendClock) (s : Sender) (aData : List UInt8)
    (args : SendArgs) : Sender × List Packet :=
  (if cfg.mSubFragmentMode = .single then sendFragmentedSingle else sendFragmentedBundled)
    cfg clk (s.planned cfg aData args) aData (plan cfg aData.length).2 s.numbered

theorem sendType2Only_eq (cfg : SenderConfig) (clk : SendClock) (s : Sender) (aData : List UInt8)
    (args : SendArgs) (hsmall : aData.length ≤ cfg.mMtu - FrameType2.sizeof) :
    sendType2Only cfg clk s aData args = sendPlanned cfg clk s aData args := by
  have hchunk : chunk aData 0 aData.length = aData := List.take_length
  have hloop : ∀ o : Outgoing, bundleLoop cfg clk o aData 0 0 0 s.numbered = (s.numbered, []) := by
    intro o
    rw [bundleLoop, dif_neg (Nat.lt_irrefl 0)]
  simp only [sendPlanned, planned, plan, if_pos hsmall]
  split_ifs
  · simp only [sendFragmentedSingle, type1Loop, sendTail, Bool.false_eq_true, if_false,
      Nat.zero_mul, List.nil_append, hchunk]
    rfl
  · simp only [sendFragmentedBundled, hloop, sendTail, Bool.false_eq_true, if_false,
      Nat.zero_mul, List.nil_append, hchunk]
    rfl

/-- A call of `send` takes the data when it can, and otherwise evicts at
most. -/
theorem send_cases (cfg : SenderConfig) (clk : SendClock) (s : Sender) (aData : List UInt8)
    (args : SendArgs) :
    (Sendable cfg aData ∧
      s.send cfg clk aData args = (sendPlanned cfg clk (s.evicted cfg clk) aData args, .ok)) ∨
    (¬ Sendable cfg aData ∧ ∃ res, res ≠ .ok ∧
      s.send cfg clk aData args =
        ((if aData = [] ∨ aData.length > maxSuperframeSize then s else s.evicted cfg clk, []),
          res)) := by
  have hframe : ¬ type1FrameSize cfg ≤ FrameType1.sizeof :=
    not_le.mpr (type1FrameSize_spec cfg).1
  rw [send]
  by_cases hempty : aData = []
  · rw [if_pos hempty, if_pos (.inl hempty)]
    exact .inr ⟨fun h => h.ne_nil hempty, .invalidParameter, by decide, rfl⟩
  by_cases hlarge : aData.length > maxSuperframeSize
  · rw [if_neg hempty, if_pos hlarge, if_pos (.inr hlarge)]
    exact .inr ⟨fun h => absurd h.size_le (not_le.mpr hlarge), .tooLargeFrame, by decide, rfl⟩
  rw [if_neg hempty, if_neg hlarge, if_neg hframe, if_neg (not_or.mpr ⟨hempty, hlarge⟩)]
  by_cases hsmall : aData.length ≤ cfg.mMtu - FrameType2.sizeof
  · rw [if_pos hsmall, sendType2Only_eq cfg clk _ aData args hsmall]
    refine .inl ⟨⟨hempty, not_lt.mp hlarge, ?_⟩, rfl⟩
    rw [plan, if_pos hsmall]
    exact (by decide : 1 ≤ maxFragmentsPerSuperframe)
  have hplan : plan cfg aData.length =
      (type1PayloadSize cfg, packetize cfg.mMtu (type1PayloadSize cfg) aData.length) :=
    if_neg hsmall
  have htotal := (plan_cuts cfg (List.length_pos_iff.mpr hempty)).total
  rw [hplan] at htotal
  rw [if_neg hsmall]
  simp only [sendFragmented]
  split_ifs with hcount hsingle
  · refine .inr ⟨fun h => ?_, .tooLargeFrame, by decide, rfl⟩
    have hle := h.total_le
    rw [hplan] at hle
    rcases hcount with hzero | hmany
    · rw [hzero] at htotal
      split_ifs at htotal
    · exact absurd hle (not_le.mpr hmany)
  · refine .inl ⟨⟨hempty, not_lt.mp hlarge, ?_⟩, ?_⟩
    · rw [hplan]
      exact not_lt.mp (not_or.mp hcount).2
    · rw [sendPlanned, planned, hplan, if_pos hsingle]
  · refine .inl ⟨⟨hempty, not_lt.mp hlarge, ?_⟩, ?_⟩
    · rw [hplan]
      exact not_lt.mp (not_or.mp hcount).2
    · rw [sendPlanned, planned, hplan, if_neg hsingle]

end Sender

/-! ### Packets of one fragment -/

namespace Outgoing

variable (o : Outgoing) (apData : List UInt8) (p : Packetization)

def packet1 (lFragNo : ℕ) : List UInt8 :=
  (o.type1 (UInt16.ofNat lFragNo)).bytes ++
    chunk apData (lFragNo * o.aType1PayloadSize) o.aType1PayloadSize

def packet3 : List UInt8 :=
  o.type3.bytes ++ chunk apData (p.lNumType1Fragments * o.aType1PayloadSize) p.lType3DataSize

def packet2 : List UInt8 :=
  (o.type2 p.lType2DataSize).bytes ++
    chunk apData (p.lNumType1Fragments * o.aType1PayloadSize + p.lType3DataSize) p.lType2DataSize

/-- The packets a superframe ends with. -/
def tail : List (List UInt8) :=
  (if p.lNeedsType3 then [o.packet3 apData p] else []) ++ [o.packet2 apData p]

/-- The fragments of a superframe, in the order of their numbers. -/
def fragments : List (List UInt8) :=
  (List.range p.lNumType1Fragments).map (o.packet1 apData) ++ o.tail apData p

end Outgoing

namespace Sender

variable {cfg : SenderConfig} {o : Outgoing} {apData : List UInt8}

def fragmentCall (clk : SendClock) (aSuperFrameNo aFragmentNo : UInt16) (aStreamId : UInt8)
    (data : List UInt8) : StoreCall :=
  .retain (clk.retainEvict aFragmentNo.toNat) (clk.stamp aFragmentNo.toNat) aSuperFrameNo
    aFragmentNo aStreamId data

/-- The Type1 fragments `lFragNo, lFragNo + 1, ..`, `count` of them, are retained. -/
def type1Calls (clk : SendClock) (o : Outgoing) (apData : List UInt8) (count lFragNo : ℕ) :
    List StoreCall :=
  (List.range' lFragNo count).map fun k =>
    fragmentCall clk o.aSuperFrameNo (UInt16.ofNat k) o.aStreamId (o.packet1 apData k)

def tailCalls (clk : SendClock) (o : Outgoing) (apData : List UInt8) (p : Packetization) :
    List StoreCall :=
  (if p.lNeedsType3 then
    [fragmentCall clk o.aSuperFrameNo (o.aOfFragmentNo - 1) o.aStreamId (o.packet3 apData p)]
  else []) ++
    [fragmentCall clk o.aSuperFrameNo o.aOfFragmentNo o.aStreamId (o.packet2 apData p)]

/-- The packet is the header and the payload, and that is what is retained. -/
theorem sendFragment_spec (cfg : SenderConfig) (clk : SendClock) (s : Sender)
    (aSuperFrameNo aFragmentNo : UInt16) (aStreamId : UInt8) (lHeader payload : List UInt8)
    (lTotalSize : ℕ) (hsize : lTotalSize = lHeader.length + payload.length) :
    (sendFragment cfg clk s aSuperFrameNo aFragmentNo aStreamId lHeader payload lTotalSize).2 =
        [{ data := lHeader ++ payload, streamId := aStreamId }] ∧
      (sendFragment cfg clk s aSuperFrameNo aFragmentNo aStreamId lHeader payload
          lTotalSize).1.retention =
        s.retention.after cfg
          [fragmentCall clk aSuperFrameNo aFragmentNo aStreamId (lHeader ++ payload)] := by
  have hwritten : (Buffer.overwrite (Buffer.overwrite s.mSendBuffer 0 lHeader) lHeader.length
      payload).take lTotalSize = lHeader ++ payload := by
    refine Buffer.take_of_prefix ?_ (by rw [hsize, List.length_append])
    exact Buffer.prefix_overwrite (Buffer.prefix_overwrite_zero _ _) payload
  simp only [sendFragment, hwritten]
  exact ⟨trivial, rfl⟩

/-- The loop over the Type1 fragments sends them one after another. -/
theorem type1Loop_spec (cfg : SenderConfig) (clk : SendClock) (o : Outgoing)
    (apData : List UInt8) (count lFragNo : ℕ) (s : Sender)
    (hmtu : 0 < count → cfg.mMtu = FrameType1.sizeof + o.aType1PayloadSize)
    (hdata : (lFragNo + count) * o.aType1PayloadSize ≤ apData.length) :
    (type1Loop cfg clk o apData count lFragNo (lFragNo * o.aType1PayloadSize) s).2 =
        (List.range' lFragNo count).map (fun k =>
          { data := o.packet1 apData k, streamId := o.aStreamId }) ∧
      (type1Loop cfg clk o apData count lFragNo (lFragNo * o.aType1PayloadSize) s).1.retention =
        s.retention.after cfg (type1Calls clk o apData count lFragNo) := by
  induction count generalizing lFragNo s with
  | zero => exact ⟨rfl, rfl⟩
  | succ count ih =>
      have hnext : lFragNo * o.aType1PayloadSize + o.aType1PayloadSize =
          (lFragNo + 1) * o.aType1PayloadSize := by ring
      have hchunk : (chunk apData (lFragNo * o.aType1PayloadSize)
          o.aType1PayloadSize).length = o.aType1PayloadSize := by
        refine length_chunk _ _ _ (hnext ▸ le_trans (Nat.mul_le_mul_right _ ?_) hdata)
        omega
      obtain ⟨hsent, hkept⟩ := sendFragment_spec cfg clk s o.aSuperFrameNo (UInt16.ofNat lFragNo)
        o.aStreamId (o.type1 (UInt16.ofNat lFragNo)).bytes
        (chunk apData (lFragNo * o.aType1PayloadSize) o.aType1PayloadSize) cfg.mMtu
        (by rw [hmtu (Nat.succ_pos _), hchunk, FrameType1.length_bytes]; rfl)
      obtain ⟨hrest, hrestKept⟩ := ih (lFragNo + 1)
        (sendFragment cfg clk s o.aSuperFrameNo (UInt16.ofNat lFragNo) o.aStreamId
          (o.type1 (UInt16.ofNat lFragNo)).bytes
          (chunk apData (lFragNo * o.aType1PayloadSize) o.aType1PayloadSize) cfg.mMtu).1
        (fun _ => hmtu (Nat.succ_pos _))
        (by rw [show lFragNo + 1 + count = lFragNo + (count + 1) by omega]; exact hdata)
      simp only [type1Loop, type1Calls, hnext, List.range'_succ]
      constructor
      · rw [hsent, hrest]
        rfl
      · rw [hrestKept, hkept]
        rfl

theorem sendTail_spec (cfg : SenderConfig) (clk : SendClock) (o : Outgoing) {p : Packetization} {mMtu : ℕ}
    (hcuts : p.Cuts mMtu o.aType1PayloadSize apData.length) (s : Sender) :
    (sendTail cfg clk o apData p (p.lNumType1Fragments * o.aType1PayloadSize) s).2 =
        (o.tail apData p).map (fun data => { data, streamId := o.aStreamId }) ∧
      (sendTail cfg clk o apData p (p.lNumType1Fragments * o.aType1PayloadSize) s).1.retention =
        s.retention.after cfg (tailCalls clk o apData p) := by
  have hsize := hcuts.size
  have hchunk2 := length_chunk apData
    (p.lNumType1Fragments * o.aType1PayloadSize + p.lType3DataSize) p.lType2DataSize
    (le_of_eq hsize)
  have hchunk3 := length_chunk apData (p.lNumType1Fragments * o.aType1PayloadSize)
    p.lType3DataSize (by omega)
  have hsent2 : ∀ s : Sender, _ := fun s => sendFragment_spec cfg clk s o.aSuperFrameNo
    o.aOfFragmentNo o.aStreamId (o.type2 p.lType2DataSize).bytes
    (chunk apData (p.lNumType1Fragments * o.aType1PayloadSize + p.lType3DataSize)
      p.lType2DataSize) (FrameType2.sizeof + p.lType2DataSize)
    (by rw [hchunk2, FrameType2.length_bytes]; rfl)
  cases hneeds : p.lNeedsType3 with
  | false =>
      have hzero : p.lType3DataSize = 0 := by
        have := hcuts.type3_pos
        rw [hneeds] at this
        simpa using this
      obtain ⟨hsent, hkept⟩ := hsent2 s
      rw [hzero, Nat.add_zero] at hsent hkept
      simp only [sendTail, tailCalls, hneeds, Outgoing.tail, Bool.false_eq_true, if_false,
        List.nil_append, Outgoing.packet2, hzero, Nat.add_zero, List.map_cons, List.map_nil, hsent]
      exact ⟨trivial, hkept⟩
  | true =>
      obtain ⟨hsent3, hkept3⟩ := sendFragment_spec cfg clk s o.aSuperFrameNo
        (o.aOfFragmentNo - 1) o.aStreamId o.type3.bytes
        (chunk apData (p.lNumType1Fragments * o.aType1PayloadSize) p.lType3DataSize)
        (FrameType3.sizeof + p.lType3DataSize)
        (by rw [hchunk3, FrameType3.length_bytes]; rfl)
      obtain ⟨hsent, hkept⟩ := hsent2 (sendFragment cfg clk s o.aSuperFrameNo
        (o.aOfFragmentNo - 1) o.aStreamId o.type3.bytes
        (chunk apData (p.lNumType1Fragments * o.aType1PayloadSize) p.lType3DataSize)
        (FrameType3.sizeof + p.lType3DataSize)).1
      simp only [sendTail, tailCalls, hneeds, if_true, Outgoing.tail, hsent3, hsent]
      refine ⟨rfl, ?_⟩
      rw [hkept, hkept3]
      rfl

/-! ### Bundles -/

theorem length_packet1 {n k : ℕ} (hdata : n * o.aType1PayloadSize ≤ apData.length) (hk : k < n) :
    (o.packet1 apData k).length = o.lType1FrameSize := by
  have hfits : k * o.aType1PayloadSize + o.aType1PayloadSize ≤ apData.length := by
    rw [← Nat.succ_mul]
    exact le_trans (Nat.mul_le_mul_right _ hk) hdata
  rw [Outgoing.packet1, List.length_append, FrameType1.length_bytes, length_chunk _ _ _ hfits]
  rfl

/-- A fragment is written behind the others, and retained as it stands in
the bundle. -/
theorem bundleFragment_spec (cfg : SenderConfig) (clk : SendClock) {n k : ℕ}
    (hdata : n * o.aType1PayloadSize ≤ apData.length) (hk : k < n) (s : Sender)
    {written : List UInt8} (hwritten : written <+: s.mBundleBuffer) :
    (written ++ o.packet1 apData k <+:
      (bundleFragment cfg clk o apData k (k * o.aType1PayloadSize) written.length
        s).mBundleBuffer) ∧
      (bundleFragment cfg clk o apData k (k * o.aType1PayloadSize) written.length s).retention =
        s.retention.after cfg (type1Calls clk o apData 1 k) := by
  have hheader := Buffer.prefix_overwrite hwritten (o.type1 (UInt16.ofNat k)).bytes
  have hpacket := Buffer.prefix_overwrite hheader
    (chunk apData (k * o.aType1PayloadSize) o.aType1PayloadSize)
  rw [List.length_append, List.append_assoc] at hpacket
  have hread := Buffer.drop_take_of_prefix hpacket (length_packet1 hdata hk)
  refine ⟨hpacket, ?_⟩
  simp only [bundleFragment, hread]
  rfl

theorem bundleFragments_spec (cfg : SenderConfig) (clk : SendClock) {n : ℕ}
    (hdata : n * o.aType1PayloadSize ≤ apData.length)
    (count lFragNo : ℕ) (hn : lFragNo + count ≤ n) (s : Sender) {written : List UInt8}
    (hwritten : written <+: s.mBundleBuffer) :
    (written ++ ((List.range' lFragNo count).map (o.packet1 apData)).flatten <+:
      (bundleFragments cfg clk o apData count lFragNo (lFragNo * o.aType1PayloadSize)
        written.length s).mBundleBuffer) ∧
      (bundleFragments cfg clk o apData count lFragNo (lFragNo * o.aType1PayloadSize)
          written.length s).retention =
        s.retention.after cfg (type1Calls clk o apData count lFragNo) := by
  induction count generalizing lFragNo s written with
  | zero =>
      rw [List.range'_zero, List.map_nil, List.flatten_nil, List.append_nil]
      exact ⟨hwritten, rfl⟩
  | succ count ih =>
      have hnext : lFragNo * o.aType1PayloadSize + o.aType1PayloadSize =
          (lFragNo + 1) * o.aType1PayloadSize := by ring
      have hlength := length_packet1 hdata (show lFragNo < n by omega)
      obtain ⟨hfirst, hfirstKept⟩ :=
        bundleFragment_spec cfg clk hdata (show lFragNo < n by omega) s hwritten
      obtain ⟨hrest, hrestKept⟩ := ih (lFragNo + 1) (by omega) _ hfirst
      rw [List.length_append, hlength, ← hnext] at hrest hrestKept
      rw [List.range'_succ, List.map_cons, List.flatten_cons, ← List.append_assoc]
      refine ⟨hrest, hrestKept.trans ?_⟩
      rw [hfirstKept, ← Retention.after_append]
      rfl

/-- The retransmit that goes into a bundle with room for `room` fragments. -/
def bundledRetransmit (o : Outgoing) (room : ℕ) (s : Sender) : Option Packet :=
  (s.takeRetransmit room).2.filter fun lRetransmit =>
    lRetransmit.data.length = o.lType1FrameSize

def aloneRetransmit (o : Outgoing) (room : ℕ) (s : Sender) : Option Packet :=
  (s.takeRetransmit room).2.filter fun lRetransmit =>
    lRetransmit.data.length ≠ o.lType1FrameSize

def bundle (o : Outgoing) (members : List (List UInt8)) : Packet where
  data := (o.type4 members.length).bytes ++ members.flatten
  streamId := o.aStreamId

theorem sendBundle_spec (cfg : SenderConfig) (clk : SendClock) {n : ℕ}
    (hdata : n * o.aType1PayloadSize ≤ apData.length) (lRetransmit : Option Packet)
    (k lFragIdx : ℕ) (hn : lFragIdx + k ≤ n) (s : Sender) :
    (sendBundle cfg clk o apData lRetransmit k lFragIdx (lFragIdx * o.aType1PayloadSize) s).2 =
        bundle o (lRetransmit.toList.map Packet.data ++
          (List.range' lFragIdx k).map (o.packet1 apData)) ∧
      (sendBundle cfg clk o apData lRetransmit k lFragIdx (lFragIdx * o.aType1PayloadSize)
          s).1.retention =
        s.retention.after cfg (type1Calls clk o apData k lFragIdx) := by
  have hcount : (k + if lRetransmit.isSome then 1 else 0) =
      (lRetransmit.toList.map Packet.data ++
        (List.range' lFragIdx k).map (o.packet1 apData)).length := by
    rw [List.length_append, List.length_map, List.length_map, List.length_range']
    cases lRetransmit with
    | none => exact (Nat.zero_add k).symm
    | some r => exact Nat.add_comm k 1
  have hdataBytes : (lRetransmit.map Packet.data).getD [] =
      (lRetransmit.toList.map Packet.data).flatten := by
    cases lRetransmit with
    | none => rfl
    | some r => exact (List.append_nil r.data).symm
  have hfragments : (((List.range' lFragIdx k).map (o.packet1 apData)).flatten).length =
      k * o.lType1FrameSize := by
    rw [length_flatten_of_forall (n := o.lType1FrameSize), List.length_map, List.length_range']
    intro l hl
    obtain ⟨i, hi, rfl⟩ := List.mem_map.mp hl
    have hlt := List.mem_range'_1.mp hi
    exact length_packet1 hdata (by omega)
  simp only [sendBundle, hcount, bundle]
  generalize (o.type4 (lRetransmit.toList.map Packet.data ++
    (List.range' lFragIdx k).map (o.packet1 apData)).length).bytes = lHeader
  generalize (lRetransmit.map Packet.data).getD [] = lRetransmitData at hdataBytes ⊢
  -- header and retransmit first, then the fragments behind them
  have hfront := Buffer.prefix_overwrite (Buffer.prefix_overwrite_zero s.mBundleBuffer lHeader)
    lRetransmitData
  obtain ⟨hwritten, hkept⟩ := bundleFragments_spec cfg clk hdata k lFragIdx hn
    { s with
      mBundleBuffer :=
        Buffer.overwrite (Buffer.overwrite s.mBundleBuffer 0 lHeader) lHeader.length
          lRetransmitData } hfront
  rw [List.length_append] at hwritten hkept
  refine ⟨?_, hkept⟩
  rw [Buffer.take_of_prefix hwritten (by rw [List.length_append, List.length_append, hfragments]),
    List.flatten_append, ← hdataBytes, List.append_assoc]

/-- What an iteration of the bundle loop does. -/
structure Iterated (cfg : SenderConfig) (clk : SendClock) (o : Outgoing) (apData : List UInt8)
    (n lFragIdx : ℕ) (s : Sender) (sent : Bundled) : Prop where
  pos : 0 < sent.lFragsInBundle
  within : lFragIdx + sent.lFragsInBundle ≤ n
  /-- The retransmit takes the place of one fragment. -/
  room : (s.bundledRetransmit o (bundleRoom cfg n lFragIdx)).toList.length +
    sent.lFragsInBundle = bundleRoom cfg n lFragIdx
  packets : sent.packets = (s.aloneRetransmit o (bundleRoom cfg n lFragIdx)).toList ++
    [bundle o ((s.bundledRetransmit o (bundleRoom cfg n lFragIdx)).toList.map Packet.data ++
      (List.range' lFragIdx sent.lFragsInBundle).map (o.packet1 apData))]
  retention : sent.sender.retention =
    (s.takeRetransmit (bundleRoom cfg n lFragIdx)).1.retention.after cfg
      (type1Calls clk o apData sent.lFragsInBundle lFragIdx)

theorem bundleIteration_spec (cfg : SenderConfig) (clk : SendClock) {n lFragIdx : ℕ}
    (hdata : n * o.aType1PayloadSize ≤ apData.length) (h : lFragIdx < n) (s : Sender) :
    Iterated cfg clk o apData n lFragIdx s
      (bundleIteration cfg clk o apData n lFragIdx (lFragIdx * o.aType1PayloadSize) s) := by
  have hpos := bundleIteration_pos cfg clk o apData (lFragIdx * o.aType1PayloadSize) s h
  have hroom : bundleRoom cfg n lFragIdx ≤ n - lFragIdx := min_le_right _ _
  -- a retransmit is only taken when there is room for more than one fragment
  have hone : (s.bundledRetransmit o (bundleRoom cfg n lFragIdx)).isSome →
      1 < bundleRoom cfg n lFragIdx := by
    intro hsome
    by_contra hle
    simp [bundledRetransmit, takeRetransmit, hle] at hsome
  have hfrags : (s.bundledRetransmit o (bundleRoom cfg n lFragIdx)).toList.length +
      (bundleIteration cfg clk o apData n lFragIdx (lFragIdx * o.aType1PayloadSize)
        s).lFragsInBundle = bundleRoom cfg n lFragIdx := by
    change _ + (if (s.bundledRetransmit o (bundleRoom cfg n lFragIdx)).isSome then
      bundleRoom cfg n lFragIdx - 1 else bundleRoom cfg n lFragIdx) = _
    cases hbundled : s.bundledRetransmit o (bundleRoom cfg n lFragIdx) with
    | none => exact Nat.zero_add _
    | some lRetransmit =>
        have hlt := hone (by rw [hbundled]; rfl)
        simp only [Option.toList_some, List.length_singleton, Option.isSome_some, if_true]
        omega
  have hwithin : lFragIdx + (bundleIteration cfg clk o apData n lFragIdx
      (lFragIdx * o.aType1PayloadSize) s).lFragsInBundle ≤ n := by omega
  obtain ⟨hpacket, hretained⟩ := sendBundle_spec cfg clk hdata
    (s.bundledRetransmit o (bundleRoom cfg n lFragIdx)) _ lFragIdx hwithin
    (s.takeRetransmit (bundleRoom cfg n lFragIdx)).1
  exact ⟨hpos, hwithin, hfrags, congrArg (fun x => _ ++ [x]) hpacket, hretained⟩

/-! ### The number of the superframe -/

theorem mSuperFrameNo_type1Loop (clk : SendClock) (count lFragNo lDataOffset : ℕ) (s : Sender) :
    (type1Loop cfg clk o apData count lFragNo lDataOffset s).1.mSuperFrameNo =
      s.mSuperFrameNo := by
  induction count generalizing lFragNo lDataOffset s with
  | zero => rfl
  | succ count ih => exact ih _ _ _

theorem mSuperFrameNo_sendTail (clk : SendClock) (p : Packetization) (lDataOffset : ℕ)
    (s : Sender) :
    (sendTail cfg clk o apData p lDataOffset s).1.mSuperFrameNo = s.mSuperFrameNo := by
  simp only [sendTail]
  split_ifs <;> rfl

theorem mSuperFrameNo_takeRetransmit (s : Sender) (room : ℕ) :
    (s.takeRetransmit room).1.mSuperFrameNo = s.mSuperFrameNo := by
  rw [takeRetransmit]
  split_ifs
  · rw [getRetransmitFragment]
    cases s.retention.mRetransmitQueue with
    | nil => rfl
    | cons lRequest rest =>
        dsimp only
        cases (s.retention.pop lRequest rest).live lRequest.mKey lRequest.mGeneration with
        | none => rfl
        | some f => rfl
  · rfl

theorem mSuperFrameNo_bundleFragments (clk : SendClock)
    (count lFragNo lDataOffset lBundleOffset : ℕ) (s : Sender) :
    (bundleFragments cfg clk o apData count lFragNo lDataOffset lBundleOffset s).mSuperFrameNo =
      s.mSuperFrameNo := by
  induction count generalizing lFragNo lDataOffset lBundleOffset s with
  | zero => rfl
  | succ count ih => exact ih _ _ _ _

theorem mSuperFrameNo_bundleLoop (clk : SendClock) (n lFragIdx lDataOffset : ℕ) (s : Sender) :
    (bundleLoop cfg clk o apData n lFragIdx lDataOffset s).1.mSuperFrameNo = s.mSuperFrameNo := by
  induction lFragIdx, lDataOffset, s using bundleLoop.induct cfg clk o apData n with
  | case1 lFragIdx lDataOffset s h sent ih =>
      rw [bundleLoop, dif_pos h]
      refine ih.trans ?_
      exact (mSuperFrameNo_bundleFragments clk _ _ _ _ _).trans
        (mSuperFrameNo_takeRetransmit s _)
  | case2 lFragIdx lDataOffset s h => rw [bundleLoop, dif_neg h]

theorem mSuperFrameNo_sendPlanned (clk : SendClock) (s : Sender) (aData : List UInt8)
    (args : SendArgs) :
    (sendPlanned cfg clk s aData args).1.mSuperFrameNo = s.mSuperFrameNo + 1 := by
  rw [sendPlanned]
  split_ifs
  · exact (mSuperFrameNo_sendTail clk _ _ _).trans (mSuperFrameNo_type1Loop clk _ _ _ _)
  · exact (mSuperFrameNo_sendTail clk _ _ _).trans (mSuperFrameNo_bundleLoop clk _ _ _ _)

theorem mSuperFrameNo_evicted (clk : SendClock) (s : Sender) :
    (s.evicted cfg clk).mSuperFrameNo = s.mSuperFrameNo := by
  rw [evicted]
  split_ifs <;> rfl

end Sender

end ElasticFrame
