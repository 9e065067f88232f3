import ElasticFrame.Sender.Frames

/-!
The two buffers that packets are put together in. Whatever the sender writes
into them is within them.
-/

namespace ElasticFrame

open Lib

namespace Sender

variable {cfg : SenderConfig} {o : Outgoing} {apData : List UInt8} {n lFragIdx : ℕ}

/-- The buffers have the sizes the constructor gives them. A copy past the end
of one would make it longer, and nothing makes it shorter again. -/
structure Buffered (cfg : SenderConfig) (s : Sender) : Prop where
  send : s.mSendBuffer.length = cfg.mMtu
  bundle : s.mBundleBuffer.length = if cfg.mSubFragmentMode = .single then 0 else cfg.mMtu

theorem Buffered.sendFragment {s : Sender} (hs : Buffered cfg s) (clk : SendClock)
    (aSuperFrameNo aFragmentNo : UInt16) (aStreamId : UInt8) {lHeader payload : List UInt8}
    (lTotalSize : ℕ) (hfits : lHeader.length + payload.length ≤ cfg.mMtu) :
    Buffered cfg (sendFragment cfg clk s aSuperFrameNo aFragmentNo aStreamId lHeader payload
      lTotalSize).1 where
  send := by
    have hheader : (Buffer.overwrite s.mSendBuffer 0 lHeader).length = s.mSendBuffer.length :=
      Buffer.length_overwrite (by rw [hs.send]; omega)
    change (Buffer.overwrite (Buffer.overwrite s.mSendBuffer 0 lHeader) lHeader.length
      payload).length = _
    rw [Buffer.length_overwrite (by rw [hheader, hs.send]; omega), hheader, hs.send]
  bundle := hs.bundle


theorem length_chunk_le (apData : List UInt8) (off len : ℕ) :
    (chunk apData off len).length ≤ len :=
  List.length_take_le _ _

theorem Buffered.type1Loop {s : Sender} (hs : Buffered cfg s) (clk : SendClock)
    (hframe : o.lType1FrameSize ≤ cfg.mMtu) (count lFragNo lDataOffset : ℕ) :
    Buffered cfg (type1Loop cfg clk o apData count lFragNo lDataOffset s).1 := by
  induction count generalizing lFragNo lDataOffset s with
  | zero => exact hs
  | succ count ih =>
      have hchunk := length_chunk_le apData lDataOffset o.aType1PayloadSize
      have hfits : (o.type1 (UInt16.ofNat lFragNo)).bytes.length +
          (chunk apData lDataOffset o.aType1PayloadSize).length ≤ cfg.mMtu := by
        rw [FrameType1.length_bytes]
        exact (Nat.add_le_add_left hchunk 8).trans hframe
      exact ih (hs.sendFragment clk _ _ _ _ hfits) _ _

theorem Buffered.sendTail {s : Sender} (hs : Buffered cfg s) (clk : SendClock) {p : Packetization}
    (hframe : o.lType1FrameSize ≤ cfg.mMtu) {aSize : ℕ}
    (hcuts : p.Cuts cfg.mMtu o.aType1PayloadSize aSize) (lDataOffset : ℕ) :
    Buffered cfg (sendTail cfg clk o apData p lDataOffset s).1 := by
  have hle := hcuts.type2_le
  have h27 : FrameType2.sizeof = 27 := rfl
  have hfits2 : ∀ off, (o.type2 p.lType2DataSize).bytes.length +
      (chunk apData off p.lType2DataSize).length ≤ cfg.mMtu := by
    intro off
    have hchunk := length_chunk_le apData off p.lType2DataSize
    rw [FrameType2.length_bytes]
    omega
  have hfits3 : o.type3.bytes.length + (chunk apData lDataOffset p.lType3DataSize).length ≤
      cfg.mMtu := by
    have hchunk := (length_chunk_le apData lDataOffset p.lType3DataSize).trans hcuts.type3_le
    rw [FrameType3.length_bytes]
    exact (Nat.add_le_add_left hchunk 8).trans hframe
  simp only [Sender.sendTail]
  split_ifs
  · exact (hs.sendFragment clk _ _ _ _ hfits3).sendFragment clk _ _ _ _ (hfits2 _)
  · exact hs.sendFragment clk _ _ _ _ (hfits2 _)

theorem Buffered.takeRetransmit {s : Sender} (hs : Buffered cfg s) (room : ℕ) :
    Buffered cfg (s.takeRetransmit room).1 := by
  rw [Sender.takeRetransmit]
  split_ifs
  · rw [getRetransmitFragment]
    cases s.retention.mRetransmitQueue with
    | nil => exact hs
    | cons lRequest rest =>
        dsimp only
        cases (s.retention.pop lRequest rest).live lRequest.mKey lRequest.mGeneration with
        | none => exact ⟨hs.send, hs.bundle⟩
        | some f => exact ⟨hs.send, hs.bundle⟩
  · exact hs

theorem Buffered.bundleFragments {s : Sender} (hs : Buffered cfg s) (clk : SendClock)
    (o : Outgoing) (apData : List UInt8) (count lFragNo lDataOffset lBundleOffset : ℕ)
    (hfits : lBundleOffset + count * o.lType1FrameSize ≤ s.mBundleBuffer.length) :
    Buffered cfg
      (bundleFragments cfg clk o apData count lFragNo lDataOffset lBundleOffset s) := by
  induction count generalizing lFragNo lDataOffset lBundleOffset s with
  | zero => exact hs
  | succ count ih =>
      have hchunk := length_chunk_le apData lDataOffset o.aType1PayloadSize
      have hframe : o.lType1FrameSize = 8 + o.aType1PayloadSize := rfl
      rw [Nat.succ_mul] at hfits
      have hheader : (Buffer.overwrite s.mBundleBuffer lBundleOffset
          (o.type1 (UInt16.ofNat lFragNo)).bytes).length = s.mBundleBuffer.length := by
        apply Buffer.length_overwrite
        rw [FrameType1.length_bytes]
        omega
      have hkept : (bundleFragment cfg clk o apData lFragNo lDataOffset lBundleOffset
          s).mBundleBuffer.length = s.mBundleBuffer.length := by
        refine (Buffer.length_overwrite ?_).trans hheader
        rw [hheader, FrameType1.length_bytes]
        omega
      have hone : Buffered cfg
          (bundleFragment cfg clk o apData lFragNo lDataOffset lBundleOffset s) :=
        ⟨hs.send, hkept.trans hs.bundle⟩
      apply ih hone
      rw [hkept]
      omega

theorem Buffered.sendBundle {s : Sender} (hs : Buffered cfg s)
    (hmode : cfg.mSubFragmentMode ≠ .single) (clk : SendClock) {lRetransmit : Option Packet}
    {k : ℕ} (lFragIdx lDataOffset : ℕ)
    (hfits : FrameType4.sizeof + ((lRetransmit.map Packet.data).getD []).length +
      k * o.lType1FrameSize ≤ cfg.mMtu) :
    Buffered cfg (sendBundle cfg clk o apData lRetransmit k lFragIdx lDataOffset s).1 := by
  have h2 : FrameType4.sizeof = 2 := rfl
  have hbundle := hs.bundle
  rw [if_neg hmode] at hbundle
  have hlength : ∀ count, (o.type4 count).bytes.length = 2 := fun _ => rfl
  have hheader : ∀ count, (Buffer.overwrite s.mBundleBuffer 0 (o.type4 count).bytes).length =
      s.mBundleBuffer.length := by
    intro count
    apply Buffer.length_overwrite
    rw [hlength]
    omega
  have hretransmit : ∀ count, (Buffer.overwrite (Buffer.overwrite s.mBundleBuffer 0
      (o.type4 count).bytes) (o.type4 count).bytes.length
      ((lRetransmit.map Packet.data).getD [])).length = s.mBundleBuffer.length := by
    intro count
    refine (Buffer.length_overwrite ?_).trans (hheader count)
    rw [hheader, hlength]
    omega
  have hfront : ∀ count, Buffered cfg { s with
      mBundleBuffer := Buffer.overwrite (Buffer.overwrite s.mBundleBuffer 0
        (o.type4 count).bytes) (o.type4 count).bytes.length
        ((lRetransmit.map Packet.data).getD []) } :=
    fun count => ⟨hs.send, (hretransmit count).trans hs.bundle⟩
  have hall := fun count => (hfront count).bundleFragments clk o apData k lFragIdx lDataOffset
    ((o.type4 count).bytes.length + ((lRetransmit.map Packet.data).getD []).length)
    (by rw [hretransmit, hlength]; omega)
  exact ⟨(hall _).send, (hall _).bundle⟩

theorem Buffered.bundleIteration {s : Sender} (hs : Buffered cfg s)
    (hmode : cfg.mSubFragmentMode ≠ .single) (clk : SendClock)
    (hframe : o.lType1FrameSize = type1FrameSize cfg) (h : lFragIdx < n) (lDataOffset : ℕ) :
    Buffered cfg (bundleIteration cfg clk o apData n lFragIdx lDataOffset s).sender := by
  obtain ⟨hpos, -, hfull⟩ := bundleRoom_spec hmode hframe h
  have htaken := hs.takeRetransmit (bundleRoom cfg n lFragIdx)
  apply htaken.sendBundle hmode
  change _ + (((s.bundledRetransmit o (bundleRoom cfg n lFragIdx)).map Packet.data).getD []).length +
    (if (s.bundledRetransmit o (bundleRoom cfg n lFragIdx)).isSome then _ else _) * _ ≤ _
  cases hbundled : s.bundledRetransmit o (bundleRoom cfg n lFragIdx) with
  | none => exact hfull
  | some lRetransmit =>
      rw [bundledRetransmit, Option.filter_eq_some_iff] at hbundled
      have hsize : lRetransmit.data.length = o.lType1FrameSize := of_decide_eq_true hbundled.2
      have hroom : o.lType1FrameSize + (bundleRoom cfg n lFragIdx - 1) * o.lType1FrameSize =
          bundleRoom cfg n lFragIdx * o.lType1FrameSize := by
        rw [Nat.add_comm, ← Nat.succ_mul]
        congr 1
        omega
      rw [Option.map_some, Option.getD_some, hsize, Option.isSome_some, if_pos rfl, Nat.add_assoc,
        hroom]
      exact hfull

theorem Buffered.bundleLoop {s : Sender} (hs : Buffered cfg s)
    (hmode : cfg.mSubFragmentMode ≠ .single) (clk : SendClock)
    (hframe : 0 < n → o.lType1FrameSize = type1FrameSize cfg) (lFragIdx lDataOffset : ℕ) :
    Buffered cfg (bundleLoop cfg clk o apData n lFragIdx lDataOffset s).1 := by
  induction lFragIdx, lDataOffset, s using bundleLoop.induct cfg clk o apData n with
  | case1 lFragIdx lDataOffset s h sent ih =>
      rw [Sender.bundleLoop, dif_pos h]
      exact ih (hs.bundleIteration hmode clk (hframe (by omega)) h lDataOffset)
  | case2 lFragIdx lDataOffset s h =>
      rw [Sender.bundleLoop, dif_neg h]
      exact hs

theorem Buffered.sendPlanned {s : Sender} (hs : Buffered cfg s) (clk : SendClock)
    {aData : List UInt8} (h : Sendable cfg aData) (args : SendArgs) :
    Buffered cfg (sendPlanned cfg clk s aData args).1 := by
  have hframe : (s.planned cfg aData args).lType1FrameSize ≤ cfg.mMtu := plan_fst_le cfg _
  have hnumbered : Buffered cfg s.numbered := ⟨hs.send, hs.bundle⟩
  rw [Sender.sendPlanned]
  split_ifs with hsingle
  · exact (hnumbered.type1Loop clk hframe _ 0 0).sendTail clk hframe h.cuts _
  · have hfull : 0 < (plan cfg aData.length).2.lNumType1Fragments →
        (s.planned cfg aData args).lType1FrameSize = type1FrameSize cfg := plan_fst
    exact (hnumbered.bundleLoop hsingle clk hfull 0 0).sendTail clk hframe h.cuts _

theorem Buffered.evicted {s : Sender} (hs : Buffered cfg s) (clk : SendClock) :
    Buffered cfg (s.evicted cfg clk) := by
  rw [Sender.evicted]
  split_ifs
  · exact ⟨hs.send, hs.bundle⟩
  · exact hs

theorem buffered_retransmitLoop {s : Sender} (hs : Buffered cfg s) (aMaxCount : ℕ)
    (queue : List RetransmitRequest) (lCount : ℕ) :
    Buffered cfg (retransmitLoop aMaxCount queue lCount s).1 := by
  induction queue generalizing lCount s with
  | nil => exact hs
  | cons lRequest rest ih =>
      rw [retransmitLoop]
      split_ifs
      · dsimp only
        cases (s.retention.pop lRequest rest).live lRequest.mKey lRequest.mGeneration with
        | none =>
            exact ih (s := { s with retention := s.retention.pop lRequest rest })
              ⟨hs.send, hs.bundle⟩ lCount
        | some f =>
            exact ih (s := { s with
              retention := (s.retention.pop lRequest rest).retry lRequest f }.countRetransmit)
              ⟨hs.send, hs.bundle⟩ (lCount + 1)
      · exact hs

theorem Buffered.step {s : Sender} (hs : Buffered cfg s) (e : SenderCall) :
    Buffered cfg ((Sender.machine cfg).step s e).1 := by
  cases e with
  | send clk aData args =>
      rcases send_cases cfg clk s aData args with ⟨h, hsend⟩ | ⟨-, res, -, hsend⟩
      · simp only [Sender.machine, hsend]
        exact (hs.evicted clk).sendPlanned clk h args
      · simp only [Sender.machine, hsend]
        split_ifs
        · exact hs
        · exact hs.evicted clk
  | receiveNack aData =>
      simp only [Sender.machine, receiveNack]
      split_ifs <;> exact ⟨hs.send, hs.bundle⟩
  | processRetransmits aMaxCount => exact buffered_retransmitLoop hs aMaxCount _ 0

theorem buffered_new (cfg : SenderConfig) : Buffered cfg (Sender.new cfg) where
  send := List.length_replicate
  bundle := by
    simp only [Sender.new]
    split_ifs
    · rfl
    · exact List.length_replicate

end Sender

end ElasticFrame
