import ElasticFrame.Transfer.Collection
import ElasticFrame.Sender.SizeLimit
import ElasticFrame.Sender.Bundles

/-!
The packets of a `send` that has nothing to send again. They carry a
superframe the way a receiver expects it: the Type1 fragments on their own or
in groups, the Type3 and the Type2 on their own.
-/

namespace ElasticFrame

open Lib

/-! ### Time stamps -/

/-- The decode time stamp that a receiver is to find: the one given to `send`,
if its distance to the presentation time stamp fits the header. -/
def sentDts (aPts aDts : UInt64) : UInt64 :=
  if aDts ≠ 0xFFFFFFFFFFFFFFFF ∧ aPts ≠ 0xFFFFFFFFFFFFFFFF ∧ aDts ≤ aPts ∧
      aPts - aDts ≤ 0xFFFFFFFE then aDts
  else 0xFFFFFFFFFFFFFFFF

theorem toNat_dtsPtsDiff {aPts aDts : UInt64} (hle : aDts ≤ aPts)
    (hfits : aPts - aDts ≤ 0xFFFFFFFE) :
    (aPts - aDts).toUInt32.toNat = aPts.toNat - aDts.toNat := by
  have hsub : (aPts - aDts).toNat = aPts.toNat - aDts.toNat := UInt64.toNat_sub_of_le _ _ hle
  have hlt : (aPts - aDts).toNat ≤ 0xFFFFFFFE := hfits
  rw [UInt64.toNat_toUInt32, hsub]
  omega

theorem dtsPtsDiff_le (aPts aDts : UInt64) (h : dtsPtsDiff aPts aDts ≠ 0xFFFFFFFF) :
    (dtsPtsDiff aPts aDts).toUInt64 ≤ aPts := by
  rw [dtsPtsDiff] at h ⊢
  split_ifs at h ⊢ with hvalid hfits
  · rw [UInt64.le_iff_toNat_le, UInt32.toNat_toUInt64, toNat_dtsPtsDiff hvalid.2.2 hfits]
    exact Nat.sub_le _ _
  · exact absurd rfl h
  · exact absurd rfl h

/-- The distance is written to the header, and the receiver goes back by it. -/
theorem dts_of_dtsPtsDiff {h : FrameType2} {aDts : UInt64}
    (hdiff : h.mDtsPtsDiff = dtsPtsDiff h.mPts aDts) : h.dts = sentDts h.mPts aDts := by
  rw [FrameType2.dts, sentDts, hdiff, dtsPtsDiff]
  by_cases hvalid : aDts ≠ 0xFFFFFFFFFFFFFFFF ∧ h.mPts ≠ 0xFFFFFFFFFFFFFFFF ∧ h.mPts ≥ aDts
  · rw [if_pos hvalid]
    by_cases hfits : h.mPts - aDts ≤ 0xFFFFFFFE
    · have hdiff := toNat_dtsPtsDiff hvalid.2.2 hfits
      have hne : (h.mPts - aDts).toUInt32 ≠ 0xFFFFFFFF := by
        intro heq
        have hsub : (h.mPts - aDts).toNat = h.mPts.toNat - aDts.toNat :=
          UInt64.toNat_sub_of_le _ _ hvalid.2.2
        have hlt : (h.mPts - aDts).toNat ≤ 0xFFFFFFFE := hfits
        rw [heq] at hdiff
        have hmax : (0xFFFFFFFF : UInt32).toNat = 0xFFFFFFFF := rfl
        omega
      rw [if_pos hfits, if_neg hne, if_pos ⟨hvalid.1, hvalid.2.1, hvalid.2.2, hfits⟩]
      have hback : (h.mPts - aDts).toUInt32.toUInt64 = h.mPts - aDts := by
        apply UInt64.toNat_inj.mp
        rw [UInt32.toNat_toUInt64, hdiff, UInt64.toNat_sub_of_le _ _ hvalid.2.2]
      rw [hback, UInt64.sub_eq_add_neg, UInt64.neg_sub, UInt64.add_comm, UInt64.sub_add_cancel]
    · rw [if_neg hfits, if_pos rfl, if_neg fun hall => hfits hall.2.2.2]
  · rw [if_neg hvalid, if_pos rfl, if_neg fun hall => hvalid ⟨hall.1, hall.2.1, hall.2.2.1⟩]

/-! ### The superframe -/

namespace Outgoing

variable {o : Outgoing} {apData : List UInt8} {p : Packetization}

theorem fragmentsOf_packets (o : Outgoing) (apData : List UInt8) (p : Packetization) :
    fragmentsOf ((List.range p.lNumType1Fragments).map (o.packet1 apData))
      (if p.lNeedsType3 then some (o.packet3 apData p) else none) (o.packet2 apData p) =
        o.superframe apData p := by
  rw [fragmentsOf, superframe, List.map_map]
  split_ifs <;> rfl

theorem flags_superframe {f : Fragment} (h : f ∈ o.superframe apData p) :
    getFlags f.frameType = o.aFlags &&& 0xF0 := by
  rcases mem_superframe.mp h with ⟨k, -, rfl⟩ | ⟨-, rfl⟩ | rfl
  · rw [Fragment.frameType, read_packet1]
    exact getFlags_makeFrameTypeByte .type1 o.aFlags
  · rw [Fragment.frameType, read_packet3]
    exact getFlags_makeFrameTypeByte .type3 o.aFlags
  · rw [Fragment.frameType, read_packet2]
    exact getFlags_makeFrameTypeByte .type2 o.aFlags

theorem headerSize_le_superframe {f : Fragment} (h : f ∈ o.superframe apData p) :
    f.headerSize ≤ f.packet.length := by
  rcases mem_superframe.mp h with ⟨k, -, rfl⟩ | ⟨-, rfl⟩ | rfl
  · rw [Fragment.packet, packet1, List.length_append, FrameType1.length_bytes]
    exact Nat.le_add_right _ _
  · rw [Fragment.packet, packet3, List.length_append, FrameType3.length_bytes]
    exact Nat.le_add_right _ _
  · rw [Fragment.packet, packet2, List.length_append, FrameType2.length_bytes]
    exact Nat.le_add_right _ _

end Outgoing

namespace Sender

variable {cfg : SenderConfig} {aData : List UInt8}

theorem size_type3 (h : Sendable cfg aData) (s : Sender) (args : SendArgs) :
    Fragment.size (.type3 ((s.planned cfg aData args).packet3 aData (plan cfg aData.length).2)) =
      (plan cfg aData.length).2.lType3DataSize := by
  have hsize := h.cuts.size
  rw [Fragment.size, Outgoing.packet3, List.length_append, FrameType3.length_bytes, length_chunk]
  · exact Nat.add_sub_cancel_left _ _
  · change _ * (plan cfg aData.length).1 + _ ≤ _
    omega

theorem length_type2 (h : Sendable cfg aData) (s : Sender) (args : SendArgs) :
    ((s.planned cfg aData args).packet2 aData (plan cfg aData.length).2).length =
      FrameType2.sizeof + (plan cfg aData.length).2.lType2DataSize := by
  have hsize := h.cuts.size
  rw [Outgoing.packet2, List.length_append, FrameType2.length_bytes, length_chunk]
  · rfl
  · change _ * (plan cfg aData.length).1 + _ + _ ≤ _
    omega

/-- The Type1 size is not 0 where a header of a superframe gives it. -/
theorem plan_fst_pos (aSize : ℕ) (h : 1 < (plan cfg aSize).2.lTotalFragments) :
    0 < (plan cfg aSize).1 := by
  rw [plan] at h ⊢
  split_ifs at h ⊢
  · exact absurd h (lt_irrefl 1)
  · exact Nat.sub_pos_of_lt (type1FrameSize_spec cfg).1

/-- The receiver finds nothing wrong with a fragment of a superframe within the
limit of its estimate. -/
theorem check_superframe (h : Sendable cfg aData) (s : Sender) (args : SendArgs)
    (hle : estimate cfg aData.length ≤ maxSuperframeSize) {f : Fragment}
    (hf : f ∈ (s.planned cfg aData args).superframe aData (plan cfg aData.length).2) :
    f.check = none := by
  have htotal := (totalSize_le h s args hf).trans (max_le hle le_rfl)
  have hof := totalFragments_eq h s args hf
  have htype1 := type1Size_superframe h s args hf
  have h8192 : (plan cfg aData.length).2.lTotalFragments ≤ 8192 := h.total_le
  rcases Outgoing.mem_superframe.mp hf with ⟨k, hk, rfl⟩ | ⟨hneeds, rfl⟩ | rfl
  · have hcount := h.cuts.total
    have hslot := @Outgoing.slot_type1 (s.planned cfg aData args) aData k (by omega)
    have hlast : k + 1 < (plan cfg aData.length).2.lTotalFragments := by
      split_ifs at hcount <;> omega
    rw [Fragment.check, hslot, if_neg (by omega), if_neg (by omega)]
  · have hslot := slot_type3 h s args hneeds
    have hsize := size_type3 h s args
    have hfits := h.cuts.type3_le
    rw [Fragment.check, if_neg (by omega), if_neg (by omega), if_neg (by omega)]
  · have hsize := size_type2 h s args
    have hlength := length_type2 h s args
    have hdiff := dtsPtsDiff_le args.aPts args.aDts
    have hpos : (Fragment.type2 ((s.planned cfg aData args).packet2 aData
        (plan cfg aData.length).2)).ofFragmentNo > 0 → 0 < (plan cfg aData.length).1 :=
      fun hmany => plan_fst_pos _ (by omega)
    rw [Fragment.check, if_neg (not_not.mpr (by rw [hsize]; exact hlength)), if_neg (by omega),
      if_neg (fun hzero => absurd (hpos hzero.1) (by omega)), if_neg, if_neg (by omega)]
    rw [Outgoing.read_packet2]
    exact fun hbad => absurd (hdiff hbad.1) (UInt64.not_le.mpr hbad.2)

theorem totalSize_pos (h : Sendable cfg aData) (s : Sender) (args : SendArgs) {f : Fragment}
    (hf : f ∈ (s.planned cfg aData args).superframe aData (plan cfg aData.length).2) :
    0 < f.totalSize := by
  have hof := totalFragments_eq h s args hf
  have htype1 := type1Size_superframe h s args hf
  have hcount := h.cuts.total
  rcases Outgoing.mem_superframe.mp hf with ⟨k, hk, rfl⟩ | ⟨hneeds, rfl⟩ | rfl
  · rw [Fragment.totalSize, htype1]
    refine Nat.mul_pos (plan_fst_pos _ ?_) (Nat.succ_pos _)
    split_ifs at hcount <;> omega
  · rw [Fragment.totalSize, htype1]
    refine Nat.mul_pos (plan_fst_pos _ ?_) (Nat.succ_pos _)
    rw [if_pos hneeds] at hcount
    omega
  · rw [Fragment.totalSize, size_type2 h s args]
    exact Nat.add_pos_right _ h.cuts.type2_pos

theorem acceptable_superframe (h : Sendable cfg aData) (s : Sender) (args : SendArgs)
    (hle : estimate cfg aData.length ≤ maxSuperframeSize) {f : Fragment}
    (hf : f ∈ (s.planned cfg aData args).superframe aData (plan cfg aData.length).2) :
    f.Acceptable where
  length := Outgoing.headerSize_le_superframe hf
  check := check_superframe h s args hle hf
  small := (Fragment.check_of_totalSize_le
    ((totalSize_le h s args hf).trans (max_le hle le_rfl))).2
  alloc := totalSize_pos h s args hf

/-- In a superframe of more than one fragment the Type2 is not larger than a
Type1. -/
theorem plan_type2_le (aSize : ℕ) (h : 1 < (plan cfg aSize).2.lTotalFragments) :
    (plan cfg aSize).2.lType2DataSize ≤ (plan cfg aSize).1 := by
  rw [plan] at h ⊢
  split_ifs at h ⊢
  · exact absurd h (lt_irrefl 1)
  · exact packetize_type2_le (Nat.sub_pos_of_lt (type1FrameSize_spec cfg).1)

/-- What a `send` cuts the data into, within the limit of the receiver's
estimate, is a superframe. -/
def superframeOf (h : Sendable cfg aData) (hle : estimate cfg aData.length ≤ maxSuperframeSize)
    (s : Sender) (args : SendArgs) : Superframe where
  type1 := (List.range (plan cfg aData.length).2.lNumType1Fragments).map
    ((s.planned cfg aData args).packet1 aData)
  type3 :=
    if (plan cfg aData.length).2.lNeedsType3 then
      some ((s.planned cfg aData args).packet3 aData (plan cfg aData.length).2)
    else none
  type2 := (s.planned cfg aData args).packet2 aData (plan cfg aData.length).2
  mSuperFrameNo := s.mSuperFrameNo
  mStreamId := args.aStreamId
  mFlags := args.aFlags &&& 0xF0
  mFragmentSize := (plan cfg aData.length).1
  acceptable f hf := acceptable_superframe h s args hle (Outgoing.fragmentsOf_packets _ _ _ ▸ hf)
  slot := by
    rw [Outgoing.fragmentsOf_packets, length_superframe h s args]
    exact slots_planned h s args
  ofFragmentNo f hf := by
    rw [Outgoing.fragmentsOf_packets] at hf ⊢
    rw [length_superframe h s args, totalFragments_eq h s args hf]
  type1Size f hf := type1Size_superframe h s args (Outgoing.fragmentsOf_packets _ _ _ ▸ hf)
  superFrameNo f hf := Outgoing.superFrameNo_superframe (Outgoing.fragmentsOf_packets _ _ _ ▸ hf)
  streamId f hf := Outgoing.streamId_superframe (Outgoing.fragmentsOf_packets _ _ _ ▸ hf)
  flags f hf := Outgoing.flags_superframe (Outgoing.fragmentsOf_packets _ _ _ ▸ hf)
  type2_pos := by
    rw [size_type2 h s args]
    exact h.cuts.type2_pos
  type2_le hpos := by
    have hof := totalFragments_eq h s args (Outgoing.mem_superframe.mpr (.inr (.inr rfl)))
    rw [size_type2 h s args]
    exact plan_type2_le _ (by omega)
  type3_pos t ht := by
    obtain ⟨hneeds, rfl⟩ : (plan cfg aData.length).2.lNeedsType3 = true ∧
        (s.planned cfg aData args).packet3 aData (plan cfg aData.length).2 = t := by
      split_ifs at ht with hneeds
      · exact ⟨hneeds, Option.some.inj ht⟩
      · cases ht
    rw [size_type3 h s args]
    exact h.cuts.type3_pos.mp hneeds

/-! ### The packets -/

end Sender

namespace Retention

theorem mRetransmitQueue_evictLoop (cfg : SenderConfig) (lCutoffUs : ℤ) (aRequiredBytes : ℕ)
    (order : List RetentionOrderEntry) (s : Retention) :
    (evictLoop cfg lCutoffUs aRequiredBytes order s).mRetransmitQueue = s.mRetransmitQueue := by
  induction order generalizing s with
  | nil => rfl
  | cons lOldest rest ih =>
      rw [evictLoop]
      cases s.live lOldest.mKey lOldest.mGeneration with
      | none => exact ih s
      | some f =>
          dsimp only
          split_ifs
          · rfl
          · exact ih _

theorem mRetransmitQueue_retainFragment (cfg : SenderConfig) (s : Retention)
    (lNow mTimestampUs : ℤ) (aSuperFrameNo aFragmentNo : UInt16) (aStreamId : UInt8)
    (apData : List UInt8) :
    (s.retainFragment cfg lNow mTimestampUs aSuperFrameNo aFragmentNo aStreamId
      apData).mRetransmitQueue = s.mRetransmitQueue := by
  by_cases h : Retains cfg apData
  · rw [retainFragment_of s _ _ _ _ _ h]
    exact mRetransmitQueue_evictLoop ..
  · rw [retainFragment_of_not s _ _ _ _ _ h]

theorem mRetransmitQueue_type1Calls (cfg : SenderConfig) (clk : SendClock) (o : Outgoing)
    (apData : List UInt8) (count lFragNo : ℕ) (s : Retention) :
    (s.after cfg (Sender.type1Calls clk o apData count lFragNo)).mRetransmitQueue =
      s.mRetransmitQueue := by
  induction count generalizing lFragNo s with
  | zero => rfl
  | succ count ih =>
      rw [Sender.type1Calls, List.range'_succ, List.map_cons, after_cons]
      exact (ih (lFragNo + 1) _).trans (mRetransmitQueue_retainFragment ..)

end Retention

namespace Sender

theorem mRetransmitQueue_evicted (clk : SendClock) (s : Sender) :
    (s.evicted cfg clk).retention.mRetransmitQueue = s.retention.mRetransmitQueue := by
  rw [evicted]
  split_ifs
  · exact Retention.mRetransmitQueue_evictLoop ..
  · rfl

/-- With nothing to send again, the bundles take the Type1 fragments in groups,
in order. -/
theorem packets_bundleLoop (clk : SendClock) {o : Outgoing} {apData : List UInt8} {n : ℕ}
    (hdata : n * o.aType1PayloadSize ≤ apData.length) (lFragIdx : ℕ) (s : Sender)
    (hqueue : s.retention.mRetransmitQueue = []) :
    ∃ groups : List (List ℕ), groups.flatten = List.range' lFragIdx (n - lFragIdx) ∧
      (∀ g ∈ groups, 0 < g.length ∧ g.length ≤ 255) ∧
      (bundleLoop cfg clk o apData n lFragIdx (lFragIdx * o.aType1PayloadSize) s).2 =
        groups.map fun g => bundle o (g.map (o.packet1 apData)) := by
  induction lFragIdx, s using bundleCalls.induct cfg clk o apData n with
  | case1 lFragIdx s h sent ih =>
      have hsent := bundleIteration_spec cfg clk hdata h s
      change Iterated cfg clk o apData n lFragIdx s sent at hsent
      have hnone : s.takeRetransmit (bundleRoom cfg n lFragIdx) = (s, none) := by
        rw [takeRetransmit, if_neg fun hboth => hboth.1 hqueue]
      have hbundled : s.bundledRetransmit o (bundleRoom cfg n lFragIdx) = none := by
        rw [bundledRetransmit, hnone]
        rfl
      have halone : s.aloneRetransmit o (bundleRoom cfg n lFragIdx) = none := by
        rw [aloneRetransmit, hnone]
        rfl
      have hpackets := hsent.packets
      have hroom := hsent.room
      have hretention := hsent.retention
      rw [hbundled, halone] at hpackets
      rw [hbundled] at hroom
      rw [hnone] at hretention
      have hnext : sent.sender.retention.mRetransmitQueue = [] := by
        rw [hretention, Retention.mRetransmitQueue_type1Calls, hqueue]
      obtain ⟨groups, hflatten, hsizes, hrest⟩ := ih hnext
      have hwithin := hsent.within
      have hle := bundleRoom_le cfg n lFragIdx
      refine ⟨List.range' lFragIdx sent.lFragsInBundle :: groups, ?_, fun g hg => ?_, ?_⟩
      · have hsplit : n - lFragIdx =
            sent.lFragsInBundle + (n - (lFragIdx + sent.lFragsInBundle)) := by omega
        rw [List.flatten_cons, hflatten, hsplit, List.range'_append_1]
      · rcases List.mem_cons.mp hg with rfl | hg
        · rw [List.length_range']
          refine ⟨hsent.pos, ?_⟩
          simp only [Option.toList_none, List.length_nil, Nat.zero_add] at hroom
          omega
        · exact hsizes g hg
      · rw [bundleLoop, dif_pos h]
        dsimp only
        rw [← Nat.add_mul]
        change sent.packets ++ _ = _
        rw [hpackets, hrest]
        rfl
  | case2 lFragIdx s h =>
      refine ⟨[], ?_, fun g hg => absurd hg List.not_mem_nil, ?_⟩
      · rw [Nat.sub_eq_zero_of_le (not_lt.mp h)]
        rfl
      · rw [bundleLoop, dif_neg h]
        rfl

end Sender

/-- The packets carry the superframe, and all of it. -/
structure Superframe.Emitted (S : Superframe) (packets : List Packet) : Prop where
  carried : ∀ p ∈ packets, S.Carried p.data
  covers : ∀ f ∈ S.fragments, ∃ p ∈ packets, f ∈ fragmentsIn p.data

namespace Sender

variable {cfg : SenderConfig} {aData : List UInt8}

theorem fragments_superframeOf (h : Sendable cfg aData)
    (hle : estimate cfg aData.length ≤ maxSuperframeSize) (s : Sender) (args : SendArgs) :
    (superframeOf h hle s args).fragments =
      (s.planned cfg aData args).superframe aData (plan cfg aData.length).2 :=
  Outgoing.fragmentsOf_packets _ _ _

theorem carried_superframe (h : Sendable cfg aData)
    (hle : estimate cfg aData.length ≤ maxSuperframeSize) (s : Sender) (args : SendArgs)
    {f : Fragment}
    (hf : f ∈ (s.planned cfg aData args).superframe aData (plan cfg aData.length).2) :
    (superframeOf h hle s args).Carried f.packet ∧ f ∈ fragmentsIn f.packet := by
  have hpacket := Outgoing.ofPacket_superframe hf
  rw [← fragments_superframeOf h hle s args] at hf
  refine ⟨.alone hf hpacket, ?_⟩
  rw [fragmentsIn_of_ofPacket hpacket]
  exact List.mem_singleton_self f

theorem emitted_bundles (h : Sendable cfg aData)
    (hle : estimate cfg aData.length ≤ maxSuperframeSize) (s : Sender) (args : SendArgs)
    {groups : List (List ℕ)}
    (hflatten : groups.flatten = List.range' 0 (plan cfg aData.length).2.lNumType1Fragments)
    (hsizes : ∀ g ∈ groups, 0 < g.length ∧ g.length ≤ 255) :
    (∀ g ∈ groups, (superframeOf h hle s args).Carried (bundle (s.planned cfg aData args)
        (g.map ((s.planned cfg aData args).packet1 aData))).data) ∧
      ∀ k < (plan cfg aData.length).2.lNumType1Fragments, ∃ g ∈ groups,
        .type1 ((s.planned cfg aData args).packet1 aData k) ∈
          fragmentsIn (bundle (s.planned cfg aData args)
            (g.map ((s.planned cfg aData args).packet1 aData))).data := by
  have hgroup : ∀ g ∈ groups, 0 < (g.map ((s.planned cfg aData args).packet1 aData)).length ∧
      (g.map ((s.planned cfg aData args).packet1 aData)).length ≤ 255 ∧
      ∀ m ∈ g.map ((s.planned cfg aData args).packet1 aData),
        .type1 m ∈ (superframeOf h hle s args).fragments ∧
          Fragment.ofPacket m = some (.type1 m) := by
    intro g hg
    obtain ⟨hpos, hmax⟩ := hsizes g hg
    refine ⟨by rwa [List.length_map], by rwa [List.length_map], fun m hm => ?_⟩
    obtain ⟨k, hk, rfl⟩ := List.mem_map.mp hm
    have hflat : k ∈ groups.flatten := List.mem_flatten_of_mem hg hk
    rw [hflatten, List.mem_range'_1] at hflat
    have hmem := @Outgoing.mem_superframe (s.planned cfg aData args) aData
      (plan cfg aData.length).2 (.type1 ((s.planned cfg aData args).packet1 aData k))
    have hin := hmem.mpr (.inl ⟨k, by omega, rfl⟩)
    have hpacket := Outgoing.ofPacket_superframe hin
    rw [Fragment.packet] at hpacket
    exact ⟨fragments_superframeOf h hle s args ▸ hin, hpacket⟩
  refine ⟨fun g hg => ?_, fun k hk => ?_⟩
  · obtain ⟨hpos, hmax, hmem⟩ := hgroup g hg
    exact Superframe.Carried.bundle hpos hmax hmem
  · have hflat : k ∈ groups.flatten := by
      rw [hflatten, List.mem_range'_1]
      omega
    obtain ⟨g, hg, hkg⟩ := List.mem_flatten.mp hflat
    obtain ⟨hpos, hmax, hmem⟩ := hgroup g hg
    refine ⟨g, hg, ?_⟩
    rw [Superframe.fragmentsIn_bundle hpos hmax hmem]
    exact List.mem_map_of_mem (List.mem_map_of_mem hkg)

theorem emitted_sendPlanned (h : Sendable cfg aData)
    (hle : estimate cfg aData.length ≤ maxSuperframeSize) (clk : SendClock) (s : Sender)
    (args : SendArgs) (hqueue : s.retention.mRetransmitQueue = []) :
    (superframeOf h hle s args).Emitted (sendPlanned cfg clk s aData args).2 := by
  have halone := fun f hf => @carried_superframe cfg aData h hle s args f hf
  have hdata : (plan cfg aData.length).2.lNumType1Fragments *
      (s.planned cfg aData args).aType1PayloadSize ≤ aData.length := by
    have hsize := h.cuts.size
    change _ * (plan cfg aData.length).1 ≤ _
    omega
  have hloop : ∃ packets, (sendPlanned cfg clk s aData args).2 = packets ++
        ((s.planned cfg aData args).tail aData (plan cfg aData.length).2).map
          (fun data => { data, streamId := args.aStreamId }) ∧
      (∀ p ∈ packets, (superframeOf h hle s args).Carried p.data) ∧
      ∀ k < (plan cfg aData.length).2.lNumType1Fragments, ∃ p ∈ packets,
        .type1 ((s.planned cfg aData args).packet1 aData k) ∈ fragmentsIn p.data := by
    refine ⟨_, (sendPlanned_spec clk s h args).2, ?_⟩
    split_ifs with hsingle
    · have htype1 := fun k hk => halone (.type1 ((s.planned cfg aData args).packet1 aData k))
        (Outgoing.mem_superframe.mpr (.inl ⟨k, hk, rfl⟩))
      refine ⟨fun p hp => ?_, fun k hk => ?_⟩
      · obtain ⟨k, hk, rfl⟩ := List.mem_map.mp hp
        exact (htype1 k (List.mem_range.mp hk)).1
      · exact ⟨_, List.mem_map_of_mem (List.mem_range.mpr hk), (htype1 k hk).2⟩
    · obtain ⟨groups, hflatten, hsizes, hpackets⟩ :=
        @packets_bundleLoop cfg clk _ _ _ hdata 0 s.numbered hqueue
      rw [Nat.zero_mul] at hpackets
      obtain ⟨hcarried, hcovers⟩ := emitted_bundles h hle s args hflatten hsizes
      rw [hpackets]
      refine ⟨fun p hp => ?_, fun k hk => ?_⟩
      · obtain ⟨g, hg, rfl⟩ := List.mem_map.mp hp
        exact hcarried g hg
      · obtain ⟨g, hg, hmem⟩ := hcovers k hk
        exact ⟨_, List.mem_map_of_mem hg, hmem⟩
  obtain ⟨packets, hpackets, hcarried, hcovers⟩ := hloop
  have htail : ∀ f ∈ (s.planned cfg aData args).superframe aData (plan cfg aData.length).2,
      f.packet ∈ (s.planned cfg aData args).tail aData (plan cfg aData.length).2 →
      ∃ p ∈ (sendPlanned cfg clk s aData args).2, f ∈ fragmentsIn p.data := by
    intro f hf hmem
    rw [hpackets]
    exact ⟨_, List.mem_append_right _ (List.mem_map_of_mem hmem), (halone f hf).2⟩
  refine ⟨fun p hp => ?_, fun f hf => ?_⟩
  · rw [hpackets] at hp
    rcases List.mem_append.mp hp with hp | hp
    · exact hcarried p hp
    · obtain ⟨data, hdata, rfl⟩ := List.mem_map.mp hp
      have hmem : data ∈ (s.planned cfg aData args).fragments aData (plan cfg aData.length).2 :=
        List.mem_append_right _ hdata
      rw [← Outgoing.map_packet_superframe] at hmem
      obtain ⟨f, hf, rfl⟩ := List.mem_map.mp hmem
      exact (halone f hf).1
  · rw [fragments_superframeOf] at hf
    rcases Outgoing.mem_superframe.mp hf with ⟨k, hk, rfl⟩ | ⟨hneeds, rfl⟩ | rfl
    · obtain ⟨p, hp, hmem⟩ := hcovers k hk
      rw [hpackets]
      exact ⟨p, List.mem_append_left _ hp, hmem⟩
    · refine htail _ hf (List.mem_append_left _ ?_)
      rw [if_pos hneeds]
      exact List.mem_singleton_self _
    · exact htail _ hf (List.mem_append_right _ (List.mem_singleton_self _))

end Sender

namespace Sample

/-- As many bytes as nine Type1 fragments of `eighthCfg` and a Type2 take. -/
def payload : List UInt8 := (List.range 230).map UInt8.ofNat

end Sample

end ElasticFrame
