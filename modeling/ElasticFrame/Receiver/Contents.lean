import ElasticFrame.Receiver.Completeness

/-!
What a bucket makes of the fragments of one superframe.

A `Superframe` is data cut the way a receiver expects it: Type1 fragments of
one size, a Type2 at the end, and at most one Type3 before it. A bucket that
has accepted some of its fragments takes every other one and refuses the rest
as duplicates. When it has accepted all of them, in whatever order, its frame
holds the data: the Type1 fragments lie in their slots, and the Type2 behind
the Type3 if there is one.
-/

namespace ElasticFrame

open Lib

/-- A packet that can open a bucket. -/
structure Fragment.Acceptable (f : Fragment) : Prop where
  length : f.headerSize ≤ f.packet.length
  check : f.check = none
  small : f.oversized = false
  alloc : 0 < f.totalSize

theorem Fragment.Acceptable.admissible {f : Fragment} (h : f.Acceptable) : f.Admissible :=
  admissible_of_check (not_lt.mpr h.length) h.check

/-- The fragments of a superframe from its packets, in the order of their
numbers. -/
def fragmentsOf (type1 : List (List UInt8)) (type3 : Option (List UInt8)) (type2 : List UInt8) :
    List Fragment :=
  type1.map .type1 ++ (type3.toList.map .type3 ++ [.type2 type2])

/-- The packets of a superframe and what their headers agree on. -/
structure Superframe where
  type1 : List (List UInt8)
  type3 : Option (List UInt8)
  type2 : List UInt8
  mSuperFrameNo : UInt16
  mStreamId : UInt8
  mFlags : UInt8
  mFragmentSize : ℕ
  acceptable : ∀ f ∈ fragmentsOf type1 type3 type2, f.Acceptable
  slot : (fragmentsOf type1 type3 type2).map Fragment.slot =
    List.range (fragmentsOf type1 type3 type2).length
  ofFragmentNo : ∀ f ∈ fragmentsOf type1 type3 type2,
    f.ofFragmentNo + 1 = (fragmentsOf type1 type3 type2).length
  type1Size : ∀ f ∈ fragmentsOf type1 type3 type2, f.type1Size = mFragmentSize
  superFrameNo : ∀ f ∈ fragmentsOf type1 type3 type2, f.superFrameNo = mSuperFrameNo
  streamId : ∀ f ∈ fragmentsOf type1 type3 type2, f.streamId = mStreamId
  flags : ∀ f ∈ fragmentsOf type1 type3 type2, getFlags f.frameType = mFlags
  type2_pos : 0 < (Fragment.type2 type2).size
  type2_le : 0 < (Fragment.type2 type2).ofFragmentNo →
    (Fragment.type2 type2).size ≤ mFragmentSize
  type3_pos : ∀ t ∈ type3, 0 < (Fragment.type3 t).size

namespace Superframe

variable (S : Superframe)

def fragments : List Fragment := fragmentsOf S.type1 S.type3 S.type2

def data : List UInt8 := (S.fragments.map Fragment.payload).flatten

variable {S}

theorem mem_fragments {f : Fragment} :
    f ∈ S.fragments ↔ (∃ d ∈ S.type1, f = .type1 d) ∨ (∃ d ∈ S.type3, f = .type3 d) ∨
      f = .type2 S.type2 := by
  simp only [fragments, fragmentsOf, List.mem_append, List.mem_map, List.mem_singleton,
    Option.mem_toList, Option.mem_def, eq_comm]

theorem type2_mem : .type2 S.type2 ∈ S.fragments := mem_fragments.mpr (.inr (.inr rfl))

theorem eq_type2 {d : List UInt8} (h : .type2 d ∈ S.fragments) : d = S.type2 := by
  rcases mem_fragments.mp h with ⟨e, -, heq⟩ | ⟨e, -, heq⟩ | heq
  · cases heq
  · cases heq
  · exact Fragment.type2.inj heq

theorem type3_mem {d : List UInt8} : .type3 d ∈ S.fragments ↔ d ∈ S.type3 := by
  rw [mem_fragments]
  constructor
  · rintro (⟨e, -, heq⟩ | ⟨e, he, heq⟩ | heq)
    · cases heq
    · exact Fragment.type3.inj heq ▸ he
    · cases heq
  · exact fun h => .inr (.inl ⟨d, h, rfl⟩)

theorem length_fragments :
    S.fragments.length = S.type1.length + (S.type3.toList.length + 1) := by
  simp [fragments, fragmentsOf]

theorem slot_getElem {k : ℕ} (hk : k < S.fragments.length) : S.fragments[k].slot = k := by
  have hslot : (S.fragments.map Fragment.slot)[k]? = (List.range S.fragments.length)[k]? :=
    congrArg (fun l : List ℕ => l[k]?) S.slot
  rw [List.getElem?_map, List.getElem?_eq_getElem hk, List.getElem?_range hk] at hslot
  exact Option.some.inj hslot

theorem eq_of_slot {f g : Fragment} (hf : f ∈ S.fragments) (hg : g ∈ S.fragments)
    (h : f.slot = g.slot) : f = g := by
  have hnodup : (S.fragments.map Fragment.slot).Nodup := S.slot ▸ List.nodup_range
  exact List.inj_on_of_nodup_map hnodup hf hg h

theorem slot_type1 {k : ℕ} (hk : k < S.type1.length) : (Fragment.type1 S.type1[k]).slot = k := by
  have hlt : k < S.fragments.length := by
    rw [length_fragments]
    omega
  have hget : S.fragments[k] = .type1 S.type1[k] := by
    simp only [fragments, fragmentsOf]
    rw [List.getElem_append_left (by rwa [List.length_map]), List.getElem_map]
  rw [← hget, slot_getElem]

theorem slot_type3 {t : List UInt8} (ht : t ∈ S.type3) :
    (Fragment.type3 t).slot = S.type1.length := by
  have hlt : S.type1.length < S.fragments.length := by
    rw [length_fragments]
    omega
  have hget : S.fragments[S.type1.length] = .type3 t := by
    simp only [fragments, fragmentsOf, Option.mem_def.mp ht]
    rw [List.getElem_append_right (by rw [List.length_map])]
    simp
  rw [← hget, slot_getElem]

theorem length_payload_type1 {d : List UInt8} (hd : d ∈ S.type1) :
    (Fragment.type1 d).payload.length = S.mFragmentSize := by
  have hmem : Fragment.type1 d ∈ S.fragments := mem_fragments.mpr (.inl ⟨d, hd, rfl⟩)
  rw [Fragment.length_payload (S.acceptable _ hmem).admissible]
  exact S.type1Size _ hmem

theorem length_type1 : (S.type1.map fun d => (Fragment.type1 d).payload).flatten.length =
    S.mFragmentSize * S.type1.length := by
  have hlength : S.type1.map (List.length ∘ fun d => (Fragment.type1 d).payload) =
      S.type1.map fun _ => S.mFragmentSize :=
    List.map_congr_left fun d hd => length_payload_type1 hd
  rw [List.length_flatten, List.map_map, hlength, List.map_const', List.sum_replicate, smul_eq_mul,
    Nat.mul_comm]

/-- Where there is a Type3, the superframe has more than one fragment. -/
theorem type3_checked {t : List UInt8} (ht : t ∈ S.type3) :
    0 < (Fragment.type2 S.type2).ofFragmentNo ∧
      (Fragment.type3 t).size ≤ S.mFragmentSize := by
  have hmem := type3_mem.mpr ht
  obtain ⟨hpos, hle⟩ := Fragment.type3_checked (S.acceptable _ hmem).check
  refine ⟨?_, S.type1Size _ hmem ▸ hle⟩
  have hof := S.ofFragmentNo _ hmem
  have hof2 := S.ofFragmentNo _ (type2_mem (S := S))
  omega

end Superframe

namespace Bucket

variable {S : Superframe} {h : List Fragment} {b : Bucket}

/-! ### What a bucket knows of its superframe -/

/-- The bucket is the one of the superframe. -/
structure Belongs (S : Superframe) (b : Bucket) : Prop where
  mSavedFrameNo : b.mSavedFrameNo = S.mSuperFrameNo
  mStreamId : b.mStreamId = S.mStreamId
  mOfFragmentNo : b.mOfFragmentNo + 1 = S.fragments.length
  mFragmentSize : b.mFragmentSize = S.mFragmentSize
  mFlags : b.mFlags = S.mFlags

theorem fill_mFlags (b : Bucket) (f : Fragment) :
    (b.fill f).mFlags = b.mFlags ∨ (b.fill f).mFlags = getFlags f.frameType := by
  cases f with
  | type1 d => exact .inl rfl
  | type2 d => exact .inr rfl
  | type3 d => exact .inl rfl

theorem Built.belongs (hb : b.Built h) (hS : ∀ f ∈ h, f ∈ S.fragments) : b.Belongs S := by
  induction hb with
  | @opened b cfg now lOrder src s f admissible check alloc =>
      have hf := hS f (List.mem_singleton_self f)
      exact ⟨S.superFrameNo f hf, S.streamId f hf, S.ofFragmentNo f hf, S.type1Size f hf,
        S.flags f hf⟩
  | @filled h b src f built admissible check fits ih =>
      have hold := ih fun g hg => hS g (List.mem_append_left _ hg)
      have hf := hS f (List.mem_append_right _ (List.mem_singleton_self f))
      obtain ⟨-, hsaved, -, hof, hF, hstream, -, -, -⟩ := b.fill_fields f
      refine ⟨hsaved.trans hold.mSavedFrameNo, hstream.trans hold.mStreamId,
        (congrArg (· + 1) hof).trans hold.mOfFragmentNo, hF.trans hold.mFragmentSize, ?_⟩
      rcases b.fill_mFlags f with hflags | hflags
      · exact hflags.trans hold.mFlags
      · exact hflags.trans (S.flags f hf)

/-- The metadata of the Type2 that has been accepted. -/
structure Describes (d : List UInt8) (b : Bucket) : Prop where
  mPts : b.mPts = (FrameType2.read d).mPts
  mDts : b.mDts = (FrameType2.read d).dts
  mPayloadType : b.mPayloadType = (FrameType2.read d).mPayloadType
  mPayloadCode : b.mPayloadCode = (FrameType2.read d).mPayloadCode

theorem Built.describes (hb : b.Built h) {d : List UInt8} (hd : .type2 d ∈ h) :
    b.Describes d := by
  induction hb with
  | @opened b cfg now lOrder src s f admissible check alloc =>
      rw [← List.mem_singleton.mp hd]
      exact ⟨rfl, rfl, rfl, rfl⟩
  | @filled h b src f built admissible check fits ih =>
      rcases List.mem_append.mp hd with hold | hnew
      · obtain ⟨hpts, hdts, htype, hcode⟩ := ih hold
        cases f with
        | type1 e => exact ⟨hpts, hdts, htype, hcode⟩
        | type2 e =>
            have hs := built.slots
            have hslot : (Fragment.type2 d).slot = (Fragment.type2 e).slot :=
              (hs.of _ hold).trans fits.ofFragmentNo.symm
            exact absurd (hs.mem_received.mpr ⟨_, hold, hslot⟩) fits.slot
        | type3 e => exact ⟨hpts, hdts, htype, hcode⟩
      · rw [← List.mem_singleton.mp hnew]
        exact ⟨rfl, rfl, rfl, rfl⟩

theorem Built.mem_of_slot (hb : b.Built h) (hS : ∀ f ∈ h, f ∈ S.fragments) {f : Fragment}
    (hf : f ∈ S.fragments) (hslot : f.slot ∈ b.mReceivedFragments) : f ∈ h := by
  obtain ⟨g, hg, heq⟩ := hb.slots.mem_received.mp hslot
  rwa [← Superframe.eq_of_slot (hS g hg) hf heq]

/-- A Type2 of the superframe ends inside the allocation the check assumes. -/
theorem Built.type2_bound (hb : b.Built h) (hS : ∀ f ∈ h, f ∈ S.fragments)
    (hfree : (Fragment.type2 S.type2).slot ∉ b.mReceivedFragments) :
    Receiver.type2Offset b (FrameType2.read S.type2) + (Fragment.type2 S.type2).size ≤
      b.mFragmentSize * (b.mOfFragmentNo + 1) := by
  have hs := hb.slots
  have hbelongs := hb.belongs hS
  obtain ⟨_, -, hbounded⟩ := hb.bounded
  have hof : (FrameType2.read S.type2).mOfFragmentNo.toNat = b.mOfFragmentNo :=
    Nat.add_right_cancel ((S.ofFragmentNo _ Superframe.type2_mem).trans
      hbelongs.mOfFragmentNo.symm)
  have hpos : 0 < b.mOfFragmentNo := by
    rcases Nat.eq_zero_or_pos b.mOfFragmentNo with hzero | hpos
    · have hslot : (Fragment.type2 S.type2).slot = 0 := hof.trans hzero
      exact absurd (hslot ▸ hbounded.single hzero) hfree
    · exact hpos
  have hT : (FrameType2.read S.type2).mType1PacketSize.toNat = b.mFragmentSize :=
    (S.type1Size _ Superframe.type2_mem).trans hbelongs.mFragmentSize.symm
  have hle : (Fragment.type2 S.type2).size ≤ b.mFragmentSize :=
    hbelongs.mFragmentSize ▸ S.type2_le (lt_of_lt_of_eq hpos hof.symm)
  rw [Receiver.type2Offset, hof, hT]
  split_ifs with h3
  · have hthree := hbounded.type3
    obtain ⟨n, hn⟩ := Nat.exists_eq_succ_of_ne_zero (Nat.pos_iff_ne_zero.mp hpos)
    rw [hn, Nat.succ_sub_one, Nat.mul_succ, Nat.mul_succ]
    omega
  · rw [Nat.mul_succ]
    omega

/-- The decision on a fragment of the superframe whose bucket is active: it is
taken unless it is there already. -/
theorem Built.clash_eq (hb : b.Built h) (hS : ∀ f ∈ h, f ∈ S.fragments) {f : Fragment}
    (hf : f ∈ S.fragments) :
    f.clash b.mSourceId b =
      if f.slot ∈ b.mReceivedFragments then some .duplicateFragment else none := by
  have hbelongs := hb.belongs hS
  have hno : f.superFrameNo = b.mSavedFrameNo :=
    (S.superFrameNo f hf).trans hbelongs.mSavedFrameNo.symm
  have hstream : f.streamId = b.mStreamId := (S.streamId f hf).trans hbelongs.mStreamId.symm
  have hof : f.ofFragmentNo = b.mOfFragmentNo :=
    Nat.add_right_cancel ((S.ofFragmentNo f hf).trans hbelongs.mOfFragmentNo.symm)
  have hT : f.type1Size = b.mFragmentSize :=
    (S.type1Size f hf).trans hbelongs.mFragmentSize.symm
  have hadm := (S.acceptable f hf).admissible
  have hslot : ¬ f.slot > b.mOfFragmentNo := not_lt.mpr (hof ▸ hadm.slot_le)
  rw [Fragment.clash.eq_def, if_neg (not_not.mpr hno),
    if_neg (not_or.mpr ⟨not_not.mpr hstream, not_not.mpr rfl⟩)]
  by_cases htaken : f.slot ∈ b.mReceivedFragments
  · cases f with
    | type1 d =>
        simp only [hof, ne_eq, not_true_eq_false, hslot, or_self, htaken, if_true, if_false]
    | type2 d => simp only [hof, hT, ne_eq, not_true_eq_false, and_false, htaken, if_true, if_false]
    | type3 d =>
        simp only [hof, hT, ne_eq, not_true_eq_false, hslot, or_self, htaken, if_true, if_false]
  · cases f with
    | type1 d =>
        have hsize : (Fragment.type1 d).size = b.mFragmentSize := hT
        simp only [hof, hsize, ne_eq, not_true_eq_false, hslot, or_self, htaken, if_false]
    | type2 d =>
        obtain rfl := Superframe.eq_type2 hf
        have hbound := not_lt.mpr (hb.type2_bound hS htaken)
        simp only [hof, hT, ne_eq, not_true_eq_false, and_false, htaken, if_false, gt_iff_lt,
          hbound]
    | type3 d =>
        have hle := hT ▸ (Fragment.type3_checked (S.acceptable _ hf).check).2
        have hbound : ¬ b.mFragmentSize * (b.mOfFragmentNo + 1) <
            b.mFragmentSize * (Fragment.type3 d).slot + (Fragment.type3 d).size :=
          not_lt.mpr (mul_add_le_of_lt (by omega) hle)
        simp only [hof, hT, ne_eq, not_true_eq_false, hslot, or_self, htaken, if_false, gt_iff_lt,
          hbound]

/-! ### The frame -/

theorem Built.complete_iff {B : BufferSize} {i : B.Index} (hb : b.Built h)
    (hS : ∀ f ∈ h, f ∈ S.fragments) (hwf : b.WellFormed i) :
    b.complete = true ↔ ∀ f ∈ S.fragments, f ∈ h := by
  have hs := hb.slots
  have hbelongs := hb.belongs hS
  constructor
  · intro hcomplete f hf
    have hadm := (S.acceptable f hf).admissible
    have hof : f.ofFragmentNo = b.mOfFragmentNo :=
      Nat.add_right_cancel ((S.ofFragmentNo f hf).trans hbelongs.mOfFragmentNo.symm)
    obtain ⟨g, hg, hslot⟩ := exists_slot hs hwf hcomplete (hof ▸ hadm.slot_le)
    rwa [Superframe.eq_of_slot hf (hS g hg) hslot.symm]
  · intro hall
    have hreceived : b.mReceivedFragments = Finset.range S.fragments.length := by
      rw [hs.received]
      ext k
      rw [List.mem_toFinset, Finset.mem_range, List.mem_map]
      constructor
      · rintro ⟨g, hg, rfl⟩
        have hadm := (S.acceptable g (hS g hg)).admissible
        have hof := S.ofFragmentNo g (hS g hg)
        have hle := hadm.slot_le
        change g.ofFragmentNo + 1 = S.fragments.length at hof
        omega
      · exact fun hk => ⟨S.fragments[k], hall _ (List.getElem_mem hk), Superframe.slot_getElem hk⟩
    rw [complete, decide_eq_true_iff, hwf.count, hreceived, Finset.card_range,
      hbelongs.mOfFragmentNo]

theorem holds_type1 {blk : Block} (hp : Placed h b blk) (hF : b.mFragmentSize = S.mFragmentSize)
    (hall : ∀ f ∈ S.fragments, f ∈ h) :
    blk.Holds 0 (S.type1.map fun d => (Fragment.type1 d).payload).flatten := by
  have hpieces : ∀ k (hk : k < (S.type1.map fun d => (Fragment.type1 d).payload).length),
      (S.type1.map fun d => (Fragment.type1 d).payload)[k].length = S.mFragmentSize ∧
        blk.Holds (0 + S.mFragmentSize * k)
          (S.type1.map fun d => (Fragment.type1 d).payload)[k] := by
    intro k hk
    rw [List.length_map] at hk
    have hmem : S.type1[k] ∈ S.type1 := List.getElem_mem hk
    rw [List.getElem_map, Nat.zero_add]
    refine ⟨Superframe.length_payload_type1 hmem, ?_⟩
    have hholds := hp _ (hall _ (Superframe.mem_fragments.mpr (.inl ⟨_, hmem, rfl⟩))) (by simp)
    rwa [hF, Superframe.slot_type1 hk] at hholds
  exact Block.holds_flatten hpieces

/-- When all fragments have been accepted, the frame is the data. -/
theorem Built.contents (hb : b.Built h) (hS : ∀ f ∈ h, f ∈ S.fragments)
    (hall : ∀ f ∈ S.fragments, f ∈ h) :
    ∃ blk, b.block = some blk ∧ b.frameSize = S.data.length ∧ blk.Holds 0 S.data := by
  obtain ⟨blk, hblock, hlayout⟩ := hb.layout
  have hs := hb.slots
  have hbelongs := hb.belongs hS
  have htype1 := holds_type1 hlayout.placed hbelongs.mFragmentSize hall
  have hlength1 : (S.type1.map fun d => (Fragment.type1 d).payload).flatten.length =
      b.mFragmentSize * S.type1.length :=
    hbelongs.mFragmentSize ▸ Superframe.length_type1
  have hmem2 := hall _ Superframe.type2_mem
  have hlength2 : (Fragment.type2 S.type2).payload.length = (Fragment.type2 S.type2).size :=
    Fragment.length_payload (hs.checked _ hmem2).1
  have hof := hbelongs.mOfFragmentNo
  rw [Superframe.length_fragments] at hof
  refine ⟨blk, hblock, ?_⟩
  cases h3 : S.type3 with
  | none =>
      have hno3 : ∀ t, .type3 t ∉ h := by
        intro t ht
        have hmem := Superframe.type3_mem.mp (hS _ ht)
        rw [h3] at hmem
        cases hmem
      obtain ⟨hframe, hholds⟩ := (hlayout.plain hno3).type2 _ hmem2
      rw [h3] at hof
      have hof1 : b.mOfFragmentNo = S.type1.length := Nat.add_right_cancel hof
      have hdata : S.data = (S.type1.map fun d => (Fragment.type1 d).payload).flatten ++
          (Fragment.type2 S.type2).payload := by
        simp [Superframe.data, Superframe.fragments, fragmentsOf, h3, Function.comp_def]
      rw [hdata, List.length_append, hlength1, hlength2, ← hof1]
      refine ⟨hframe, htype1.append ?_⟩
      rwa [hlength1, Nat.zero_add, ← hof1]
  | some t =>
      have ht : t ∈ S.type3 := h3
      have hmem3 := hall _ (Superframe.type3_mem.mpr ht)
      obtain ⟨a, c, rfl⟩ := List.append_of_mem hmem3
      have hslot := Superframe.slot_type3 ht
      -- both have a payload, so the Type2 lies behind the Type3
      have hlow : Lowered a t c := by
        rcases List.mem_append.mp hmem2 with hd | hd
        · exact .inl ⟨_, hd, S.type2_pos⟩
        · exact .inr ⟨S.type3_pos t ht, _, (List.mem_cons.mp hd).resolve_left (by simp)⟩
      have hd : .type2 S.type2 ∈ a ∨ .type2 S.type2 ∈ c := by
        rcases List.mem_append.mp hmem2 with hd | hd
        · exact .inl hd
        · exact .inr ((List.mem_cons.mp hd).resolve_left (by simp))
      obtain ⟨hframe, hholds⟩ := (hlayout.split a t c rfl).lowered hlow _ hd
      have hlength3 : (Fragment.type3 t).payload.length = (Fragment.type3 t).size :=
        Fragment.length_payload (hs.checked _ hmem3).1
      have hholds3 := hlayout.placed _ hmem3 (by simp)
      rw [hslot] at hframe hholds hholds3
      have hdata : S.data = (S.type1.map fun d => (Fragment.type1 d).payload).flatten ++
          (Fragment.type3 t).payload ++ (Fragment.type2 S.type2).payload := by
        simp [Superframe.data, Superframe.fragments, fragmentsOf, h3, Function.comp_def]
      rw [hdata, List.length_append, List.length_append, hlength1, hlength2, hlength3]
      refine ⟨hframe, (htype1.append ?_).append ?_⟩
      · rwa [hlength1, Nat.zero_add]
      · rwa [List.length_append, hlength1, hlength3, Nat.zero_add]

theorem Built.frame (hb : b.Built h) (hS : ∀ f ∈ h, f ∈ S.fragments)
    (hall : ∀ f ∈ S.fragments, f ∈ h) :
    ∃ fr, b.mpFrame = some fr ∧ fr.mSize = S.data.length ∧ fr.data = S.data.map some := by
  obtain ⟨blk, hblock, hsize, hholds⟩ := hb.contents hS hall
  obtain ⟨fr, hfr, hdata⟩ := Option.bind_eq_some_iff.mp hblock
  have hframeSize : fr.mSize = S.data.length := by
    rw [← hsize, frameSize, hfr, Option.getD_some]
  refine ⟨fr, hfr, hframeSize, ?_⟩
  rw [SuperFrame.data, hdata, hframeSize]
  exact hholds.cells

end Bucket

/-- The frame carries the superframe of a source. -/
structure SuperFrame.Carries (f : SuperFrame) (S : Superframe) (aSourceId : UInt8) : Prop where
  mBroken : f.mBroken = false
  mSize : f.mSize = S.data.length
  data : f.data = S.data.map some
  mPayloadType : f.mPayloadType = (FrameType2.read S.type2).mPayloadType
  mPayloadCode : f.mPayloadCode = (FrameType2.read S.type2).mPayloadCode
  mPts : f.mPts = (FrameType2.read S.type2).mPts
  mDts : f.mDts = (FrameType2.read S.type2).dts
  mStreamId : f.mStreamId = S.mStreamId
  mFlags : f.mFlags = S.mFlags
  mSuperFrameNo : f.mSuperFrameNo = S.mSuperFrameNo
  mSourceId : f.mSourceId = aSourceId

theorem Bucket.Built.carries {S : Superframe} {h : List Fragment} {b : Bucket} (hb : b.Built h)
    (hS : ∀ f ∈ h, f ∈ S.fragments) (hall : ∀ f ∈ S.fragments, f ∈ h)
    (hcomplete : b.complete = true) : b.delivered.Carries S b.mSourceId := by
  obtain ⟨fr, hfr, hsize, hdata⟩ := hb.frame hS hall
  have hbelongs := hb.belongs hS
  have hdescribes := hb.describes (hall _ Superframe.type2_mem)
  have hdelivered : b.delivered = b.deliveredFrame fr := by
    rw [Bucket.delivered, hfr, Option.getD_some]
  rw [hdelivered]
  refine ⟨?_, hsize, hdata, hdescribes.mPayloadType, hdescribes.mPayloadCode, hdescribes.mPts,
    hdescribes.mDts, hbelongs.mStreamId, hbelongs.mFlags, hbelongs.mSavedFrameNo, rfl⟩
  change (!b.complete) = false
  rw [hcomplete]
  rfl

end ElasticFrame
