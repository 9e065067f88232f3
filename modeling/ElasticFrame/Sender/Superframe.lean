import ElasticFrame.Sender.Trace
import ElasticFrame.Receiver.Fragment

/-!
The fragments of a superframe as the receiver reads them. Every header is
read back from the packet it was written to, so the fragments carry the
numbers of the superframe from the first to the last, and their payloads put
together are the data.
-/

namespace ElasticFrame

open Lib

/-- The fragments make up the data, and are numbered from 0 on: the last one
is a Type2, and only the one before it may be a Type3. -/
structure Packetized (aSuperFrameNo : UInt16) (aData : List UInt8) (fragments : List Fragment) :
    Prop where
  length_le : fragments.length ≤ maxFragmentsPerSuperframe
  superFrameNo : ∀ f ∈ fragments, f.superFrameNo = aSuperFrameNo
  ofFragmentNo : ∀ f ∈ fragments, f.ofFragmentNo + 1 = fragments.length
  slot : fragments.map Fragment.slot = List.range fragments.length
  payload : (fragments.map Fragment.payload).flatten = aData
  type3 : ∀ d, .type3 d ∈ fragments → Fragment.slot (.type3 d) + 2 = fragments.length
  last : ∃ front d, fragments = front ++ [.type2 d] ∧ ∀ d', .type2 d' ∉ front

namespace Outgoing

variable (o : Outgoing) (apData : List UInt8) (p : Packetization)

/-- The fragments of a superframe, in the order of their numbers. -/
def superframe : List Fragment :=
  (List.range p.lNumType1Fragments).map (fun k => .type1 (o.packet1 apData k)) ++
    ((if p.lNeedsType3 then [.type3 (o.packet3 apData p)] else []) ++
      [.type2 (o.packet2 apData p)])

theorem map_packet_superframe :
    (o.superframe apData p).map Fragment.packet = o.fragments apData p := by
  rw [superframe, fragments, tail, List.map_append, List.map_append, List.map_map]
  congr 2
  split_ifs <;> rfl

variable {o apData p}

theorem mem_superframe {f : Fragment} :
    f ∈ o.superframe apData p ↔
      (∃ k < p.lNumType1Fragments, f = .type1 (o.packet1 apData k)) ∨
        (p.lNeedsType3 = true ∧ f = .type3 (o.packet3 apData p)) ∨
          f = .type2 (o.packet2 apData p) := by
  rw [superframe, List.mem_append, List.mem_append, List.mem_singleton]
  refine or_congr ?_ (or_congr ?_ Iff.rfl)
  · rw [List.mem_map]
    exact ⟨fun ⟨k, hk, h⟩ => ⟨k, List.mem_range.mp hk, h.symm⟩,
      fun ⟨k, hk, h⟩ => ⟨k, List.mem_range.mpr hk, h.symm⟩⟩
  · split_ifs with hneeds
    · rw [List.mem_singleton, and_iff_right hneeds]
    · rw [iff_false_left List.not_mem_nil]
      exact fun h => hneeds h.1

/-! ### Headers read back -/

theorem read_packet1 (k : ℕ) :
    FrameType1.read (o.packet1 apData k) = o.type1 (UInt16.ofNat k) :=
  FrameType1.read_bytes_append _ _

theorem read_packet2 : FrameType2.read (o.packet2 apData p) = o.type2 p.lType2DataSize :=
  FrameType2.read_bytes_append _ _

theorem read_packet3 : FrameType3.read (o.packet3 apData p) = o.type3 :=
  FrameType3.read_bytes_append _ _

theorem ofPacket_superframe {f : Fragment} (h : f ∈ o.superframe apData p) :
    Fragment.ofPacket f.packet = some f := by
  rcases mem_superframe.mp h with ⟨k, -, rfl⟩ | ⟨-, rfl⟩ | rfl
  · have htype : getFrameType (byteAt (o.packet1 apData k) 0) = some .type1 :=
      getFrameType_makeFrameTypeByte .type1 o.aFlags
    simp only [Fragment.ofPacket, Fragment.packet, htype]
  · have htype : getFrameType (byteAt (o.packet3 apData p) 0) = some .type3 :=
      getFrameType_makeFrameTypeByte .type3 o.aFlags
    simp only [Fragment.ofPacket, Fragment.packet, htype]
  · have htype : getFrameType (byteAt (o.packet2 apData p) 0) = some .type2 :=
      getFrameType_makeFrameTypeByte .type2 o.aFlags
    simp only [Fragment.ofPacket, Fragment.packet, htype]

theorem superFrameNo_superframe {f : Fragment} (h : f ∈ o.superframe apData p) :
    f.superFrameNo = o.aSuperFrameNo := by
  rcases mem_superframe.mp h with ⟨k, -, rfl⟩ | ⟨-, rfl⟩ | rfl
  · exact congrArg FrameType1.mSuperFrameNo (read_packet1 k)
  · exact congrArg FrameType3.mSuperFrameNo read_packet3
  · exact congrArg FrameType2.mSuperFrameNo read_packet2

theorem streamId_superframe {f : Fragment} (h : f ∈ o.superframe apData p) :
    f.streamId = o.aStreamId := by
  rcases mem_superframe.mp h with ⟨k, -, rfl⟩ | ⟨-, rfl⟩ | rfl
  · exact congrArg FrameType1.mStreamId (read_packet1 k)
  · exact congrArg FrameType3.mStreamId read_packet3
  · exact congrArg FrameType2.mStreamId read_packet2

theorem ofFragmentNo_superframe {f : Fragment} (h : f ∈ o.superframe apData p) :
    f.ofFragmentNo = o.aOfFragmentNo.toNat := by
  rcases mem_superframe.mp h with ⟨k, -, rfl⟩ | ⟨-, rfl⟩ | rfl
  · rw [Fragment.ofFragmentNo, read_packet1]
    rfl
  · rw [Fragment.ofFragmentNo, read_packet3]
    rfl
  · rw [Fragment.ofFragmentNo, read_packet2]
    rfl

theorem slot_type1 {k : ℕ} (h : k < 65536) :
    Fragment.slot (.type1 (o.packet1 apData k)) = k := by
  rw [Fragment.slot, read_packet1]
  exact UInt16.toNat_ofNat_of_lt' h

theorem payload_type1 (k : ℕ) :
    Fragment.payload (.type1 (o.packet1 apData k)) =
      chunk apData (k * o.aType1PayloadSize) o.aType1PayloadSize :=
  List.drop_left' (FrameType1.length_bytes _)

theorem payload_type2 :
    Fragment.payload (.type2 (o.packet2 apData p)) =
      chunk apData (p.lNumType1Fragments * o.aType1PayloadSize + p.lType3DataSize)
        p.lType2DataSize :=
  List.drop_left' (FrameType2.length_bytes _)

theorem payload_type3 :
    Fragment.payload (.type3 (o.packet3 apData p)) =
      chunk apData (p.lNumType1Fragments * o.aType1PayloadSize) p.lType3DataSize :=
  List.drop_left' (FrameType3.length_bytes _)

end Outgoing

/-! ### A planned superframe -/

theorem flatten_chunks (apData : List UInt8) (size n : ℕ) :
    ((List.range n).map fun k => chunk apData (k * size) size).flatten =
      apData.take (n * size) := by
  induction n with
  | zero => rw [Nat.zero_mul, List.take_zero, List.range_zero, List.map_nil, List.flatten_nil]
  | succ n ih =>
      rw [List.range_succ, List.map_append, List.flatten_append, ih, List.map_singleton,
        List.flatten_singleton, Nat.succ_mul, List.take_add]
      rfl

theorem take_append_chunk (apData : List UInt8) (off len : ℕ) :
    apData.take off ++ chunk apData off len = apData.take (off + len) :=
  List.take_add.symm

namespace Sender

variable {cfg : SenderConfig} {aData : List UInt8}

/-- The number of the last fragment, as it stands in every header. -/
theorem toNat_aOfFragmentNo (h : Sendable cfg aData) (s : Sender) (args : SendArgs) :
    (s.planned cfg aData args).aOfFragmentNo.toNat + 1 =
      (plan cfg aData.length).2.lTotalFragments := by
  have htotal := h.total_le
  have hcount := h.cuts.total
  have h8192 : maxFragmentsPerSuperframe = 8192 := rfl
  change (UInt16.ofNat _).toNat + 1 = _
  rw [UInt16.toNat_ofNat_of_lt' (by change _ < 65536; omega)]
  split_ifs at hcount <;> omega

theorem length_superframe (h : Sendable cfg aData) (s : Sender) (args : SendArgs) :
    ((s.planned cfg aData args).superframe aData (plan cfg aData.length).2).length =
      (plan cfg aData.length).2.lTotalFragments := by
  rw [← length_fragments _ aData h.cuts.total, ← Outgoing.map_packet_superframe, List.length_map]

theorem slot_type2 (h : Sendable cfg aData) (s : Sender) (args : SendArgs) :
    Fragment.slot (.type2 ((s.planned cfg aData args).packet2 aData (plan cfg aData.length).2)) +
      1 = (plan cfg aData.length).2.lTotalFragments := by
  rw [← toNat_aOfFragmentNo h s args]
  exact congrArg (fun h : FrameType2 => h.mOfFragmentNo.toNat + 1) Outgoing.read_packet2

theorem slot_type3 (h : Sendable cfg aData) (s : Sender) (args : SendArgs)
    (hneeds : (plan cfg aData.length).2.lNeedsType3 = true) :
    Fragment.slot (.type3 ((s.planned cfg aData args).packet3 aData (plan cfg aData.length).2)) +
      2 = (plan cfg aData.length).2.lTotalFragments := by
  have hcount := h.cuts.total
  have hof := toNat_aOfFragmentNo h s args
  rw [if_pos hneeds] at hcount
  have hslot : Fragment.slot (.type3 ((s.planned cfg aData args).packet3 aData
      (plan cfg aData.length).2)) = (s.planned cfg aData args).aOfFragmentNo.toNat - 1 :=
    congrArg (fun h : FrameType3 => h.mOfFragmentNo.toNat - 1) Outgoing.read_packet3
  omega

theorem slots_planned (h : Sendable cfg aData) (s : Sender) (args : SendArgs) :
    ((s.planned cfg aData args).superframe aData (plan cfg aData.length).2).map Fragment.slot =
      List.range (plan cfg aData.length).2.lTotalFragments := by
  have htotal := h.total_le
  have hcount := h.cuts.total
  have h8192 : maxFragmentsPerSuperframe = 8192 := rfl
  have hslot2 := slot_type2 h s args
  have htype1 : ((List.range (plan cfg aData.length).2.lNumType1Fragments).map fun k =>
      Fragment.type1 ((s.planned cfg aData args).packet1 aData k)).map Fragment.slot =
      List.range (plan cfg aData.length).2.lNumType1Fragments := by
    rw [List.map_map]
    refine (List.map_congr_left fun k hk => ?_).trans (List.map_id _)
    have hlt := List.mem_range.mp hk
    exact Outgoing.slot_type1 (by omega)
  rw [Outgoing.superframe, List.map_append, htype1]
  cases hneeds : (plan cfg aData.length).2.lNeedsType3 with
  | false =>
      rw [hneeds] at hcount
      rw [hcount, if_neg Bool.false_ne_true, if_neg Bool.false_ne_true, List.range_succ]
      congr 1
      rw [List.nil_append, List.map_singleton]
      congr 1
      rw [hcount, if_neg Bool.false_ne_true] at hslot2
      omega
  | true =>
      have hslot3 := slot_type3 h s args hneeds
      rw [hneeds, if_pos rfl] at hcount
      rw [hcount, if_pos rfl, List.range_succ, List.range_succ, List.append_assoc]
      congr 1
      rw [List.map_append, List.map_singleton, List.map_singleton]
      congr 2 <;> omega

theorem payload_planned (h : Sendable cfg aData) (s : Sender) (args : SendArgs) :
    (((s.planned cfg aData args).superframe aData (plan cfg aData.length).2).map
      Fragment.payload).flatten = aData := by
  have hsize := h.cuts.size
  have htype1 : ((List.range (plan cfg aData.length).2.lNumType1Fragments).map fun k =>
      Fragment.type1 ((s.planned cfg aData args).packet1 aData k)).map Fragment.payload =
      (List.range (plan cfg aData.length).2.lNumType1Fragments).map fun k =>
        chunk aData (k * (plan cfg aData.length).1) (plan cfg aData.length).1 := by
    rw [List.map_map]
    exact List.map_congr_left fun k _ => Outgoing.payload_type1 k
  have htype3 : ((if (plan cfg aData.length).2.lNeedsType3 then
      [Fragment.type3 ((s.planned cfg aData args).packet3 aData (plan cfg aData.length).2)]
      else []).map Fragment.payload).flatten =
      chunk aData ((plan cfg aData.length).2.lNumType1Fragments * (plan cfg aData.length).1)
        (plan cfg aData.length).2.lType3DataSize := by
    split_ifs with hneeds
    · rw [List.map_singleton, List.flatten_singleton, Outgoing.payload_type3]
      rfl
    · have hzero : (plan cfg aData.length).2.lType3DataSize = 0 := by
        rw [h.cuts.type3_pos] at hneeds
        omega
      rw [hzero, chunk, List.take_zero]
      rfl
  have htype2 : Fragment.payload (.type2 ((s.planned cfg aData args).packet2 aData
      (plan cfg aData.length).2)) = _ := Outgoing.payload_type2
  rw [Outgoing.superframe, List.map_append, List.map_append, List.flatten_append,
    List.flatten_append, htype1, htype3, flatten_chunks, ← List.append_assoc, take_append_chunk,
    List.map_singleton, List.flatten_singleton, htype2]
  exact (take_append_chunk aData _ _).trans (List.take_of_length_le (le_of_eq hsize.symm))

theorem packetized_planned (h : Sendable cfg aData) (s : Sender) (args : SendArgs) :
    Packetized s.mSuperFrameNo aData
      ((s.planned cfg aData args).superframe aData (plan cfg aData.length).2) := by
  have hlength := length_superframe h s args
  refine ⟨hlength.trans_le h.total_le, fun f hf => Outgoing.superFrameNo_superframe hf,
    fun f hf => ?_, ?_, payload_planned h s args, fun d hd => ?_, ?_⟩
  · rw [Outgoing.ofFragmentNo_superframe hf, hlength, toNat_aOfFragmentNo h s args]
  · rw [hlength]
    exact slots_planned h s args
  · rcases Outgoing.mem_superframe.mp hd with ⟨k, -, heq⟩ | ⟨hneeds, heq⟩ | heq
    · cases heq
    · rw [heq, hlength]
      exact slot_type3 h s args hneeds
    · cases heq
  · refine ⟨_, _, (List.append_assoc _ _ _).symm, fun d' hd' => ?_⟩
    rcases List.mem_append.mp hd' with hd' | hd'
    · obtain ⟨k, -, heq⟩ := List.mem_map.mp hd'
      cases heq
    · split_ifs at hd'
      · cases List.mem_singleton.mp hd'
      · exact absurd hd' List.not_mem_nil

end Sender

end ElasticFrame
