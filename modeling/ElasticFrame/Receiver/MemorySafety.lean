import ElasticFrame.Receiver.History

/-!
No copy leaves the packet or the frame buffer.

The three openers allocate three different sizes, and the checks on a packet
for an active bucket compare with `mFragmentSize * (mOfFragmentNo + 1)`,
which is the real allocation only while the last fragment is missing. What
makes the checks suffice is kept in `Bounded`: every slot below the last one
fits, the last one fits while it is missing, and a Type2 that may still be
moved lies where the move reads it.
-/

namespace ElasticFrame

open Lib

/-- The memory of a bucket with the accepted fragments `h` and the block
`blk`. -/
structure Bucket.Bounded (h : List Fragment) (b : Bucket) (blk : Block) : Prop where
  sound : blk.Sound
  size : ∃ f rest, h = f :: rest ∧ blk.size = f.totalSize
  frameSize_le : b.frameSize ≤ blk.size
  slots : b.mFragmentSize * b.mOfFragmentNo ≤ blk.size
  last : b.mOfFragmentNo ∉ b.mReceivedFragments →
    blk.size = b.mFragmentSize * (b.mOfFragmentNo + 1)
  type2 : 0 < b.mType2Size → b.mOfFragmentNo - 1 ∉ b.mReceivedFragments →
    b.mOfFragmentNo ∈ b.mReceivedFragments ∧
      b.mFragmentSize * b.mOfFragmentNo + b.mType2Size ≤ blk.size
  type3 : b.mType3Size ≤ b.mFragmentSize
  type3_mem : 0 < b.mType3Size → b.mOfFragmentNo - 1 ∈ b.mReceivedFragments
  single : b.mOfFragmentNo = 0 → 0 ∈ b.mReceivedFragments

namespace Bucket

theorem mul_add_le_of_lt {F k of n : ℕ} (hk : k < of) (hn : n ≤ F) : F * k + n ≤ F * of :=
  calc F * k + n ≤ F * k + F := Nat.add_le_add_left hn _
    _ = F * (k + 1) := (Nat.mul_succ F k).symm
    _ ≤ F * of := Nat.mul_le_mul_left F hk

theorem bounded_opened (b : Bucket) (cfg : ReceiverConfig) (now lOrder : ℤ) (src : UInt8)
    (s : Stream) {f : Fragment} (hadm : f.Admissible) (hcheck : f.check = none)
    (hpos : 0 < f.totalSize) :
    ∃ blk, (b.openedWith cfg now lOrder (f.opening src s) f.packet).block = some blk ∧
      Bounded [f] (b.openedWith cfg now lOrder (f.opening src s) f.packet) blk := by
  obtain ⟨hblock, hsize⟩ := b.block_openedWith cfg now lOrder (f.opening src s) f.packet hpos
  refine ⟨_, hblock, ?_⟩
  have hsound : ((Block.alloc f.totalSize).memcpy (f.type1Size * f.slot) f.packet
      f.headerSize f.size).Sound :=
    (Block.sound_alloc _).memcpy hadm.placed (by rw [hadm.length_packet])
  refine ⟨hsound, ⟨f, [], rfl, rfl⟩, le_of_eq hsize, ?_, ?_, ?_, ?_, ?_, ?_⟩
  · change f.type1Size * f.ofFragmentNo ≤ f.totalSize
    cases f <;> simp only [Fragment.totalSize, Nat.mul_succ] <;> omega
  · intro hlast
    change f.totalSize = f.type1Size * (f.ofFragmentNo + 1)
    cases f with
    | type1 d => rfl
    | type2 d => exact absurd (Finset.mem_singleton_self _) hlast
    | type3 d => rfl
  · intro htype2 _
    cases f with
    | type1 d => exact absurd htype2 (lt_irrefl 0)
    | type2 d => exact ⟨Finset.mem_singleton_self _, le_refl _⟩
    | type3 d => exact absurd htype2 (lt_irrefl 0)
  · cases f with
    | type1 d => exact Nat.zero_le _
    | type2 d => exact Nat.zero_le _
    | type3 d => exact (Fragment.type3_checked hcheck).2
  · cases f with
    | type1 d => exact fun h3 => absurd h3 (lt_irrefl 0)
    | type2 d => exact fun h3 => absurd h3 (lt_irrefl 0)
    | type3 d => exact fun _ => Finset.mem_singleton_self _
  · intro hof
    change f.ofFragmentNo = 0 at hof
    have hslot := hadm.slot_le
    change 0 ∈ ({f.slot} : Finset ℕ)
    rw [Finset.mem_singleton]
    omega

theorem Bounded.fill {h : List Fragment} {b : Bucket} {blk : Block} (hb : Bounded h b blk)
    {f : Fragment} {src : UInt8} (hblock : b.block = some blk) (hadm : f.Admissible)
    (hcheck : f.check = none) (hfits : f.Fits src b) :
    Bounded (h ++ [f]) (b.fill f) (b.fillBlock blk f) := by
  obtain ⟨-, -, -, hof, hF, -, -, hreceived, -⟩ := b.fill_fields f
  obtain ⟨-, hsize⟩ := Bucket.block_fill f hblock
  have hlen := hadm.length_packet
  have hopener : ∃ g rest, h ++ [f] = g :: rest ∧ blk.size = g.totalSize := by
    obtain ⟨g, rest, rfl, hg⟩ := hb.size
    exact ⟨g, rest ++ [f], rfl, hg⟩
  have hslotF := hfits.ofFragmentNo
  cases f with
  | type1 d =>
      have hT : (Fragment.type1 d).size = b.mFragmentSize :=
        hfits.type1Size (.inr (by simp))
      have hdst : b.mFragmentSize * (Fragment.type1 d).slot + (Fragment.type1 d).size ≤
          blk.size := by
        rcases Nat.lt_or_ge (Fragment.type1 d).slot b.mOfFragmentNo with hlt | hge
        · exact (mul_add_le_of_lt hlt (le_of_eq hT)).trans hb.slots
        · have hslot : (Fragment.type1 d).slot = b.mOfFragmentNo := by
            have hle := hadm.slot_le
            omega
          have hfree := hfits.slot
          rw [hslot] at hfree ⊢
          rw [hb.last hfree, Nat.mul_succ, hT]
      refine ⟨hb.sound.memcpy hdst (le_of_eq hlen.symm), hopener, ?_, ?_, ?_, ?_, ?_, ?_, ?_⟩
      · rw [hsize]
        exact hb.frameSize_le
      · rw [hF, hof]
        exact hb.slots
      · rw [hF, hof, hreceived]
        intro hlast
        exact hb.last fun hmem => hlast (Finset.mem_insert_of_mem hmem)
      · rw [hF, hof, hreceived]
        intro htype2 hpen
        obtain ⟨hmem, hle⟩ := hb.type2 htype2
          fun hmem => hpen (Finset.mem_insert_of_mem hmem)
        exact ⟨Finset.mem_insert_of_mem hmem, hle⟩
      · rw [hF]
        exact hb.type3
      · rw [hof, hreceived]
        exact fun h3 => Finset.mem_insert_of_mem (hb.type3_mem h3)
      · rw [hof, hreceived]
        exact fun h0 => Finset.mem_insert_of_mem (hb.single h0)
  | type2 d =>
      have hfree : b.mOfFragmentNo ∉ b.mReceivedFragments := hslotF ▸ hfits.slot
      have halloc := hb.last hfree
      have hbound := hfits.type2Bound d rfl
      rw [← halloc] at hbound
      have hpos : 0 < (Fragment.type2 d).ofFragmentNo := by
        rcases Nat.eq_zero_or_pos (Fragment.type2 d).ofFragmentNo with h0 | hpos
        · exact absurd (hb.single (hslotF ▸ h0)) (by rw [← h0, hslotF]; exact hfree)
        · exact hpos
      have hT : (FrameType2.read d).mType1PacketSize.toNat = b.mFragmentSize :=
        hfits.type1Size (.inl hpos)
      have hofd : (FrameType2.read d).mOfFragmentNo.toNat = b.mOfFragmentNo := hslotF
      have hactual : Receiver.type2ActualSize b (FrameType2.read d) =
          Receiver.type2Offset b (FrameType2.read d) + (Fragment.type2 d).size := by
        simp only [Receiver.type2ActualSize, Receiver.type2Offset, hT, Fragment.size]
        split_ifs <;> rfl
      refine ⟨hb.sound.memcpy hbound (le_of_eq hlen.symm), hopener, ?_, ?_, ?_, ?_, ?_, ?_, ?_⟩
      · rw [hsize]
        change Receiver.type2ActualSize b (FrameType2.read d) ≤ blk.size
        rw [hactual]
        exact hbound
      · rw [hF, hof]
        exact hb.slots
      · rw [hof, hreceived]
        intro hlast
        exact absurd (Finset.mem_insert_self _ _) (hslotF ▸ hlast)
      · rw [hF, hof, hreceived]
        intro _ hpen
        refine ⟨hslotF ▸ Finset.mem_insert_self _ _, ?_⟩
        -- a Type3 that left a size has taken the slot before the last
        change b.mFragmentSize * b.mOfFragmentNo + (Fragment.type2 d).size ≤ blk.size
        rcases Nat.eq_zero_or_pos b.mType3Size with h3 | h3
        · simpa [Receiver.type2Offset, h3, hT, hofd] using hbound
        · exact absurd (Finset.mem_insert_of_mem (hb.type3_mem h3)) hpen
      · rw [hF]
        exact hb.type3
      · rw [hof, hreceived]
        exact fun h3 => Finset.mem_insert_of_mem (hb.type3_mem h3)
      · rw [hof, hreceived]
        exact fun h0 => Finset.mem_insert_of_mem (hb.single h0)
  | type3 d =>
      obtain ⟨hpos, hle⟩ := Fragment.type3_checked hcheck
      have hT : (Fragment.type3 d).type1Size = b.mFragmentSize :=
        hfits.type1Size (.inr (by simp))
      have hslot : (Fragment.type3 d).slot + 1 = b.mOfFragmentNo := by
        rw [← hslotF]
        simp only [Fragment.slot, Fragment.ofFragmentNo] at hpos ⊢
        omega
      have hslot' : b.mOfFragmentNo - 1 = (Fragment.type3 d).slot := by omega
      have hfree : b.mOfFragmentNo - 1 ∉ b.mReceivedFragments := hslot' ▸ hfits.slot
      rw [hT] at hle
      have hfit : b.mFragmentSize * (Fragment.type3 d).slot + (Fragment.type3 d).size ≤
          b.mFragmentSize * b.mOfFragmentNo := mul_add_le_of_lt (by omega) hle
      have hdst := hfit.trans hb.slots
      -- the Type2 to be moved lies behind all slots, and moves down
      have hmoved : b.Moves (.type3 d) →
          b.mFragmentSize * b.mOfFragmentNo + b.mType2Size ≤ blk.size :=
        fun hmoves => (hb.type2 hmoves.2 hfree).2
      have hblk : (if b.Moves (.type3 d) then
          blk.memmove (b.mFragmentSize * (Fragment.type3 d).slot + (Fragment.type3 d).size)
            (b.mFragmentSize * (Fragment.type3 d).ofFragmentNo) b.mType2Size
          else blk).Sound ∧
          (if b.Moves (.type3 d) then
            blk.memmove (b.mFragmentSize * (Fragment.type3 d).slot + (Fragment.type3 d).size)
              (b.mFragmentSize * (Fragment.type3 d).ofFragmentNo) b.mType2Size
            else blk).size = blk.size := by
        split_ifs with hmoves
        · have hsrc := hmoved hmoves
          refine ⟨hb.sound.memmove (by omega) ?_, rfl⟩
          rw [hslotF]
          exact hsrc
        · exact ⟨hb.sound, rfl⟩
      have hblksize : (b.fillBlock blk (.type3 d)).size = blk.size := hblk.2
      refine ⟨hblk.1.memcpy (by rw [hblk.2]; exact hdst) (le_of_eq hlen.symm), ?_, ?_, ?_, ?_,
        ?_, ?_, ?_, ?_⟩
      · rw [hblksize]
        exact hopener
      · rw [hsize, hblksize]
        change (if b.Moves (.type3 d) then _ else _) ≤ _
        split_ifs with hmoves hlast
        · have hsrc := hmoved hmoves
          omega
        · exact hb.frameSize_le
        · exact hdst
      · rw [hF, hof, hblksize]
        exact hb.slots
      · rw [hF, hof, hreceived, hblksize]
        intro hlast
        exact hb.last fun hmem => hlast (Finset.mem_insert_of_mem hmem)
      · rw [hof, hreceived, hslot']
        exact fun _ hpen => absurd (Finset.mem_insert_self _ _) hpen
      · rw [hF]
        exact hle
      · rw [hof, hreceived, hslot']
        exact fun _ => Finset.mem_insert_self _ _
      · rw [hof, hreceived]
        exact fun h0 => Finset.mem_insert_of_mem (hb.single h0)

theorem Built.bounded {h : List Fragment} {b : Bucket} (hb : b.Built h) :
    ∃ blk, b.block = some blk ∧ b.Bounded h blk := by
  induction hb with
  | opened admissible check alloc => exact bounded_opened _ _ _ _ _ _ admissible check alloc
  | filled built admissible check fits ih =>
      obtain ⟨blk, hblock, hbounded⟩ := ih
      exact ⟨_, (Bucket.block_fill _ hblock).1,
        hbounded.fill hblock admissible check fits⟩

end Bucket

/-- The memory of a frame: no copy made into it has left the packet, the
frame or the allocation, which is the one of the fragment that opened the
bucket, and the frame does not extend beyond it. -/
def SuperFrame.Contained (f : SuperFrame) (opener : Fragment) : Prop :=
  ∃ blk, f.mpData = some blk ∧ blk.size = opener.totalSize ∧ f.mSize ≤ blk.size ∧
    ∀ c ∈ blk.copies, c.InBounds blk.size

theorem Bucket.Built.contained {h : List Fragment} {b : Bucket} (hb : b.Built h) :
    ∃ f opener rest, b.mpFrame = some f ∧ h = opener :: rest ∧ f.Contained opener := by
  obtain ⟨blk, hblock, hbounded⟩ := hb.bounded
  obtain ⟨f, hf, hdata⟩ := Option.bind_eq_some_iff.mp hblock
  obtain ⟨opener, rest, hh, hsize⟩ := hbounded.size
  have hle := hbounded.frameSize_le
  simp only [Bucket.frameSize, hf, Option.getD_some] at hle
  exact ⟨f, opener, rest, hf, hh, blk, hdata, hsize, hle, hbounded.sound⟩

/-- A member the loop of a bundle hands over is a part of the packet, of the
full member size. -/
theorem Receiver.memberActs_within {B : BufferSize} (cfg : ReceiverConfig)
    (env : Surroundings) (src : UInt8) (apData : List UInt8)
    (lFrameSize count lI lOffset : ℕ) (r : Receiver B)
    (hfit : lOffset + lFrameSize * count ≤ apData.length) {now : ℤ} {memalign : Bool}
    {src' : UInt8} {f : Fragment}
    (hmem : Act.handle now memalign src' f ∈
      memberActs cfg env src apData lFrameSize count lI lOffset r) :
    f.packet <:+: apData ∧ f.packet.length = lFrameSize := by
  induction count generalizing lI lOffset r with
  | zero => simp [memberActs] at hmem
  | succ count ih =>
      rw [Nat.mul_succ] at hfit
      rw [memberActs] at hmem
      by_cases htype : getFrameType (byteAt apData lOffset) ≠ some .type1
      · simp [htype] at hmem
      rw [if_neg htype] at hmem
      rcases List.mem_cons.mp hmem with hhead | htail
      · obtain ⟨-, -, -, rfl⟩ := Act.handle.inj hhead
        refine ⟨((List.take_prefix _ _).isInfix).trans (List.drop_suffix _ _).isInfix, ?_⟩
        simp only [Fragment.packet, List.length_take, List.length_drop]
        omega
      · split_ifs at htail
        · simp at htail
        · exact ih _ _ _ (by omega) htail

/-- Every fragment a packet comes down to is a part of the packet. -/
theorem Receiver.packetActs_within {B : BufferSize} (cfg : ReceiverConfig) (r : Receiver B)
    (env : Surroundings) (aData : List UInt8) (src : UInt8) {now : ℤ} {memalign : Bool}
    {src' : UInt8} {f : Fragment}
    (hmem : Act.handle now memalign src' f ∈ r.packetActs cfg env aData src) :
    f.packet <:+: aData ∧ (getFrameType (byteAt aData 0) = some .type4 →
      f.packet.length = (aData.length - FrameType4.sizeof) /
        (FrameType4.read aData).mFrameCount.toNat) := by
  unfold packetActs at hmem
  split_ifs at hmem with hempty
  · simp at hmem
  cases htype : getFrameType (byteAt aData 0) with
  | none => simp [htype] at hmem
  | some t =>
      cases t with
      | type0 => simp [htype] at hmem
      | type1 | type2 | type3 =>
          simp only [htype, List.mem_singleton] at hmem
          obtain ⟨-, -, -, rfl⟩ := Act.handle.inj hmem
          exact ⟨List.infix_refl _, by simp⟩
      | type4 =>
          simp only [htype] at hmem
          split_ifs at hmem with hlen hsize
          · simp at hmem
          · simp at hmem
          · rcases List.mem_cons.mp hmem with hhead | htail
            · cases hhead
            · obtain ⟨hlen, hcount⟩ := not_or.mp hlen
              obtain ⟨hmod, -⟩ := not_or.mp hsize
              have hexact := Nat.div_add_mod (aData.length - FrameType4.sizeof)
                (FrameType4.read aData).mFrameCount.toNat
              rw [not_not.mp hmod, Nat.mul_comm] at hexact
              obtain ⟨hinit, hlength⟩ := memberActs_within cfg env src aData _ _ 0 _ _
                (by omega) htail
              exact ⟨hinit, fun _ => hlength⟩

/-- In every state the receiver can be brought to, and for every frame it has
delivered on the way, each copy made into the frame stayed in bounds; and
what a copy reads from a member of a bundle it reads from the packet. -/
theorem Traced.contained_of_reachable (B : BufferSize) (cfg : ReceiverConfig)
    (es : List Event) :
    let t := (Traced.ofEvents B cfg es).1
    (t.receiver = ((Receiver.system B cfg).run (Receiver.fresh B) es).1 ∧
      (Traced.ofEvents B cfg es).2.map Prod.fst =
        Receiver.deliveries ((Receiver.system B cfg).run (Receiver.fresh B) es).2) ∧
    (∀ i, (t.receiver.mpBuckets i).mActive = true →
      ∃ f opener rest, (t.receiver.mpBuckets i).mpFrame = some f ∧
        t.accepted i = opener :: rest ∧ f.Contained opener) ∧
    (∀ d h, (d, h) ∈ (Traced.ofEvents B cfg es).2 →
      ∃ opener rest, h = opener :: rest ∧ d.frame.Contained opener) ∧
    ∀ env aData src now memalign src' f,
      Act.handle now memalign src' f ∈ t.receiver.packetActs cfg env aData src →
        f.packet <:+: aData ∧ (getFrameType (byteAt aData 0) = some .type4 →
          f.packet.length = (aData.length - FrameType4.sizeof) /
            (FrameType4.read aData).mFrameCount.toNat) := by
  refine ⟨Traced.ofEvents_receiver B cfg es, fun i hact => ?_, fun d h hd => ?_,
    fun env aData src now memalign src' f hmem =>
      Receiver.packetActs_within cfg _ env aData src hmem⟩
  · exact ((Traced.faithful_run Traced.faithful_fresh cfg _).built i hact).contained
  · obtain ⟨b, hb, -, hframe⟩ := Traced.delivered_run Traced.faithful_fresh cfg _ (d, h) hd
    obtain ⟨f, opener, rest, hf, hh, hcontained⟩ := hb.contained
    refine ⟨opener, rest, hh, ?_⟩
    rw [hframe, Bucket.delivered, hf]
    exact hcontained

end ElasticFrame
