import ElasticFrame.Transfer.Reception
import ElasticFrame.Transfer.Emission
import ElasticFrame.Receiver.History
import ElasticFrame.Repair.Answer

/-!
One NACK and its answer. A bucket that has some of the fragments of a
superframe asks for the others, the sender sends them again, and the bucket
takes every one of them. A NACK has room for 255 ranges; what does not fit is
left for the next one.
-/

namespace ElasticFrame

open Lib Lib.Ranges

variable {B : BufferSize} {S : Superframe} {h : List Fragment}

/-! ### What is asked for -/

theorem Bucket.belongs_core {b : Bucket} : b.core.Belongs S ↔ b.Belongs S :=
  ⟨fun hb => ⟨hb.mSavedFrameNo, hb.mStreamId, hb.mOfFragmentNo, hb.mFragmentSize, hb.mFlags⟩,
    fun hb => ⟨hb.mSavedFrameNo, hb.mStreamId, hb.mOfFragmentNo, hb.mFragmentSize, hb.mFlags⟩⟩

/-- What the bucket is missing are the fragments it has not accepted. -/
theorem Bucket.Built.missing_iff {b : Bucket} (hb : b.Built h) (hS : ∀ f ∈ h, f ∈ S.fragments)
    {f : Fragment} (hf : f ∈ S.fragments) : b.Missing f.slot ↔ f ∉ h := by
  have hof : f.ofFragmentNo = b.mOfFragmentNo :=
    Nat.add_right_cancel ((S.ofFragmentNo f hf).trans (hb.belongs hS).mOfFragmentNo.symm)
  have hle : f.slot ≤ b.mOfFragmentNo := hof ▸ (S.acceptable f hf).admissible.slot_le
  have hreceived : f.slot ∈ b.mReceivedFragments ↔ f ∈ h :=
    ⟨hb.mem_of_slot hS hf, fun hin => hb.slots.mem_received.mpr ⟨f, hin, rfl⟩⟩
  rw [Missing, hreceived, and_iff_right hle]

/-- The fragments whose numbers lie in the ranges. -/
def Superframe.within (S : Superframe) (rs : List Range) : List Fragment :=
  S.fragments.filter fun f => ∃ r ∈ rs, r.Mem f.slot

theorem Superframe.mem_within {rs : List Range} {f : Fragment} :
    f ∈ S.within rs ↔ f ∈ S.fragments ∧ ∃ r ∈ rs, r.Mem f.slot := by
  rw [within, List.mem_filter, decide_eq_true_iff]

theorem Superframe.slots_ascending : (S.fragments.map Fragment.slot).Pairwise (· < ·) := by
  have hslot : S.fragments.map Fragment.slot = List.range S.fragments.length := S.slot
  rw [hslot]
  exact List.pairwise_lt_range

theorem Superframe.exists_within {rs : List Range}
    (hlast : ∀ r ∈ rs, r.last < S.fragments.length) {k : ℕ} :
    (∃ f ∈ S.within rs, f.slot = k) ↔ ∃ r ∈ rs, r.Mem k := by
  constructor
  · rintro ⟨f, hf, rfl⟩
    exact (mem_within.mp hf).2
  · rintro ⟨r, hr, hin⟩
    have hlt : k < S.fragments.length := hin.2.trans_lt (hlast r hr)
    have hslot := S.slot_getElem hlt
    exact ⟨S.fragments[k], mem_within.mpr ⟨List.getElem_mem hlt, r, hr, hslot.symm ▸ hin⟩, hslot⟩

theorem Superframe.slots_within {rs : List Range}
    (hascending : rs.Pairwise fun r r' => r.last < r'.start)
    (hlast : ∀ r ∈ rs, r.last < S.fragments.length) :
    (S.within rs).map Fragment.slot = rs.flatMap Range.numbers := by
  have hslots : ((S.within rs).map Fragment.slot).Pairwise (· < ·) :=
    S.slots_ascending.sublist (List.Sublist.map _ List.filter_sublist)
  have hnumbers := numbers_ascending hascending
  have hmem : ∀ k, k ∈ (S.within rs).map Fragment.slot ↔ k ∈ rs.flatMap Range.numbers := by
    intro k
    rw [List.mem_map, exists_within hlast, List.mem_flatMap]
    exact exists_congr fun r => and_congr_right fun _ => Range.mem_numbers.symm
  apply List.Perm.eq_of_pairwise (fun a b _ _ hab hba => absurd hab (Nat.lt_asymm hba)) hslots
    hnumbers
  exact (List.perm_ext_iff_of_nodup (hslots.imp Nat.ne_of_lt) (hnumbers.imp Nat.ne_of_lt)).mpr hmem

/-! ### What is sent again -/

namespace Sender

variable {cfg : SenderConfig}

theorem mStreamId_of_run (es : List SenderCall) {mKey : UInt32} {g : RetainedFragment}
    (hg : ((Sender.machine cfg).run (Sender.new cfg) es).1.retention.mRetentionBuffer[mKey]? =
      some g) : ∃ f, Fragment.ofPacket g.mData = some f ∧ f.streamId = g.mStreamId := by
  refine Retention.all_of_run cfg
    (P := fun _ mStreamId mData => ∃ f, Fragment.ofPacket mData = some f ∧ f.streamId = mStreamId)
    (fun s aData args h k data hk => ?_) es mKey g hg
  have hmem := List.mem_of_getElem? hk
  rw [← Outgoing.map_packet_superframe] at hmem
  obtain ⟨f, hf, rfl⟩ := List.mem_map.mp hmem
  exact ⟨f, Outgoing.ofPacket_superframe hf, Outgoing.streamId_superframe hf⟩

end Sender

theorem makeRetentionKey_injective {n : UInt16} {k k' : ℕ} (hk : k < 65536) (hk' : k' < 65536)
    (heq : makeRetentionKey n (UInt16.ofNat k) = makeRetentionKey n (UInt16.ofNat k')) :
    k = k' := by
  have hnat := congrArg UInt32.toNat heq
  rw [toNat_makeRetentionKey, toNat_makeRetentionKey, UInt16.toNat_ofNat_of_lt' hk,
    UInt16.toNat_ofNat_of_lt' hk'] at hnat
  omega

/-- The sender retains the fragments of the superframe. -/
def Retention.Keeps (s : Retention) (S : Superframe) : Prop :=
  ∀ f ∈ S.fragments, ∃ g,
    s.mRetentionBuffer[makeRetentionKey S.mSuperFrameNo (UInt16.ofNat f.slot)]? = some g ∧
      g.mData = f.packet

theorem Sender.answers_buildNack {cfg : SenderConfig} {es : List SenderCall}
    (hkept : ((Sender.machine cfg).run (Sender.new cfg) es).1.retention.Keeps S)
    (hqueue : ((Sender.machine cfg).run (Sender.new cfg) es).1.retention.mRetransmitQueue = [])
    (hpackets : ∀ f ∈ S.fragments, Fragment.ofPacket f.packet = some f)
    {b : Bucket} (hb : b.Belongs S) (hof : b.mOfFragmentNo ≤ 8191) {rs : List Range}
    (heq : b.nackScan (b.mOfFragmentNo + 1) 0 none =
      rs.map fun r => b.nackEntry r.start r.more)
    (hrs : Coalesced 255 b.Missing rs) :
    ((((Sender.machine cfg).run (Sender.new cfg) es).1.receiveNack
        b.buildNack).1.processRetransmits sizeMax).2 =
      (S.within (rs.take 255)).map fun f => { data := f.packet, streamId := S.mStreamId } := by
  have hlength := hb.mOfFragmentNo
  have hlt : ∀ f ∈ S.fragments, f.slot < 65536 := by
    intro f hf
    have hlast := S.ofFragmentNo f hf
    have hle := (S.acceptable f hf).admissible.slot_le
    change f.ofFragmentNo + 1 = S.fragments.length at hlast
    omega
  have hwithin : ∀ f ∈ S.within (rs.take 255), f ∈ S.fragments :=
    fun f hf => (Superframe.mem_within.mp hf).1
  obtain ⟨g₀, -⟩ := hkept _ Superframe.type2_mem
  have : Nonempty RetainedFragment := ⟨g₀⟩
  choose! g hbuffer hdata using hkept
  have hstream : ∀ f ∈ S.fragments, (g f).mStreamId = S.mStreamId := by
    intro f hf
    obtain ⟨f', hf', hsame⟩ := mStreamId_of_run es (hbuffer f hf)
    rw [hdata f hf, hpackets f hf, Option.some.injEq] at hf'
    rw [← hsame, ← hf', S.streamId f hf]
  set items := (S.within (rs.take 255)).map fun f =>
    (makeRetentionKey S.mSuperFrameNo (UInt16.ofNat f.slot), g f) with hitems
  have hslots := Superframe.slots_within (S := S)
    (hrs.ascending.sublist (List.take_sublist 255 rs)) fun r hr => by
      have hlast := Bucket.last_le_of_coalesced hrs (List.mem_of_mem_take hr)
      omega
  have hcalls : Retention.nackCalls (nackEntries b.buildNack) =
      items.map fun e => .request e.1 S.mStreamId := by
    rw [Bucket.nackCalls_buildNack hof heq hrs, ← hslots, hb.mSavedFrameNo, hb.mStreamId, hitems,
      List.map_map, List.map_map]
    rfl
  have hkeys : (items.map Prod.fst).Nodup := by
    rw [hitems, List.map_map]
    have hnodup : ((S.within (rs.take 255)).map Fragment.slot).Nodup :=
      (S.slots_ascending.sublist (List.Sublist.map _ List.filter_sublist)).imp Nat.ne_of_lt
    refine List.pairwise_map.mpr ((List.pairwise_map.mp hnodup).imp_of_mem fun {f f'} hf hf' hne =>
      fun hsame => hne ?_)
    exact makeRetentionKey_injective (hlt f (hwithin f hf)) (hlt f' (hwithin f' hf')) hsame
  have hcount : items.length ≤ sizeMax := by
    have hle : items.length ≤ S.fragments.length := by
      rw [hitems, List.length_map]
      exact List.length_filter_le _ _
    refine hle.trans ?_
    rw [← hlength]
    exact (Nat.succ_le_succ hof).trans (by decide)
  rw [processRetransmits_receiveNack es b.buildNack hqueue hcalls hkeys ?_ hcount, hitems,
    List.map_map]
  · refine List.map_congr_left fun f hf => ?_
    rw [Function.comp_apply, RetainedFragment.packet, hdata f (hwithin f hf),
      hstream f (hwithin f hf)]
  · intro e he
    obtain ⟨f, hf, rfl⟩ := List.mem_map.mp he
    exact ⟨hbuffer f (hwithin f hf), hstream f (hwithin f hf)⟩

/-! ### What the receiver makes of it -/

namespace Receiver

/-- Packets are handled one after another, each in its surroundings; the
results in order. -/
def dispatchAll (cfg : ReceiverConfig) (aSourceId : UInt8) :
    List (Surroundings × List UInt8) → Receiver B → Receiver B × List Result
  | [], r => (r, [])
  | (env, aData) :: rest, r =>
      let handled := r.dispatch cfg env aData aSourceId
      let next := dispatchAll cfg aSourceId rest handled.1
      (next.1, handled.2 :: next.2)

theorem represented_dispatchAll {r : Receiver B} (hr : r.Represented) (cfg : ReceiverConfig)
    (aSourceId : UInt8) (handed : List (Surroundings × List UInt8)) :
    (dispatchAll cfg aSourceId handed r).1.Represented := by
  induction handed generalizing r with
  | nil => exact hr
  | cons p handed ih => exact ih (represented_dispatch hr cfg p.1 p.2 aSourceId)

/-- New fragments of the superframe are taken, one after another. -/
theorem Collects.dispatchAll {r : Receiver B} {src : UInt8} {fs : List Fragment}
    (hc : r.Collects S src h) (hnodup : fs.Nodup)
    (hfs : ∀ f ∈ fs, f ∈ S.fragments ∧ f ∉ h ∧ Fragment.ofPacket f.packet = some f)
    (cfg : ReceiverConfig) {handed : List (Surroundings × List UInt8)}
    (hhanded : handed.map Prod.snd = fs.map Fragment.packet) :
    (dispatchAll cfg src handed r).2 = List.replicate fs.length .ok ∧
      (dispatchAll cfg src handed r).1.Collects S src (h ++ fs) := by
  induction fs generalizing r h handed with
  | nil =>
      obtain rfl := List.map_eq_nil_iff.mp hhanded
      rw [List.append_nil]
      exact ⟨rfl, hc⟩
  | cons f fs ih =>
      cases handed with
      | nil => cases hhanded
      | cons p handed =>
          obtain ⟨env, data⟩ := p
          rw [List.map_cons, List.map_cons, List.cons.injEq] at hhanded
          obtain ⟨hdata, hhanded⟩ := hhanded
          obtain ⟨hnew, hnodup⟩ := List.nodup_cons.mp hnodup
          obtain ⟨hf, hfree, hpacket⟩ := hfs f List.mem_cons_self
          obtain ⟨hres, hcollects, -⟩ := hc.handle hf cfg (env.nowUs 0) (env.memalign 0)
          rw [if_neg hfree] at hres hcollects
          have hstep := dispatch_of_ofPacket cfg r env src hpacket
          dsimp only at hdata
          subst hdata
          rw [← hstep] at hres hcollects
          obtain ⟨hrest, hlast⟩ := ih hcollects hnodup (fun g hg => by
            obtain ⟨hgS, hgfree, hgpacket⟩ := hfs g (List.mem_cons_of_mem _ hg)
            refine ⟨hgS, fun hin => ?_, hgpacket⟩
            rcases List.mem_append.mp hin with hin | hin
            · exact hgfree hin
            · exact hnew (List.mem_singleton.mp hin ▸ hg)) hhanded
          rw [List.append_assoc] at hlast
          refine ⟨?_, hlast⟩
          rw [Receiver.dispatchAll, List.length_cons, List.replicate_succ, hres, hrest]

end Receiver

/-! ### The round trip -/

/-- The bucket of the superframe has accepted some of its fragments, and no
others. -/
structure Traced.Lacks (t : Traced B) (S : Superframe) : Prop where
  active : (t.receiver.bucketOf S.mSuperFrameNo).mActive = true
  subset : ∀ f ∈ t.accepted (B.index S.mSuperFrameNo), f ∈ S.fragments
  missing : ∃ f ∈ S.fragments, f ∉ t.accepted (B.index S.mSuperFrameNo)

namespace Traced

variable {t : Traced B}

theorem Lacks.collects (hl : t.Lacks S) (ht : t.Faithful) :
    t.receiver.Collects S (t.receiver.bucketOf S.mSuperFrameNo).mSourceId
      (t.accepted (B.index S.mSuperFrameNo)) :=
  ⟨hl.active, ht.built _ hl.active, hl.subset, rfl⟩

/-- The fragments in ranges of missing ones have not been accepted. -/
theorem Lacks.within_missing (hl : t.Lacks S) (ht : t.Faithful) {rs : List Range}
    (hrs : ∀ r ∈ rs, ∀ k, r.Mem k → (t.receiver.bucketOf S.mSuperFrameNo).Missing k)
    {f : Fragment} (hf : f ∈ S.within rs) : f ∉ t.accepted (B.index S.mSuperFrameNo) := by
  obtain ⟨hmem, r, hr, hin⟩ := Superframe.mem_within.mp hf
  exact ((hl.collects ht).built.missing_iff hl.subset hmem).mp (hrs r hr _ hin)

theorem Lacks.refilled (hl : t.Lacks S) (ht : t.Faithful) {rs : List Range}
    (hrs : ∀ r ∈ rs, ∀ k, r.Mem k → (t.receiver.bucketOf S.mSuperFrameNo).Missing k)
    (hpackets : ∀ f ∈ S.fragments, Fragment.ofPacket f.packet = some f) (cfg : ReceiverConfig)
    {handed : List (Surroundings × List UInt8)}
    (hhanded : handed.map Prod.snd = (S.within rs).map Fragment.packet) :
    (Receiver.dispatchAll cfg (t.receiver.bucketOf S.mSuperFrameNo).mSourceId handed
        t.receiver).2 = List.replicate handed.length .ok ∧
      (Receiver.dispatchAll cfg (t.receiver.bucketOf S.mSuperFrameNo).mSourceId handed
        t.receiver).1.Collects S (t.receiver.bucketOf S.mSuperFrameNo).mSourceId
          (t.accepted (B.index S.mSuperFrameNo) ++ S.within rs) := by
  have hnodup : (S.within rs).Nodup :=
    (List.Nodup.of_map Fragment.slot (S.slots_ascending.imp Nat.ne_of_lt)).filter _
  obtain ⟨hres, hcollects⟩ := (hl.collects ht).dispatchAll hnodup (fun f hf =>
    ⟨(Superframe.mem_within.mp hf).1, hl.within_missing ht hrs hf,
      hpackets f (Superframe.mem_within.mp hf).1⟩) cfg hhanded
  have hlength := congrArg List.length hhanded
  rw [List.length_map, List.length_map] at hlength
  rw [hlength]
  exact ⟨hres, hcollects⟩

end Traced

theorem Receiver.Collects.completed {r : Receiver B} {src : UInt8} (hc : r.Collects S src h)
    (hrep : r.Represented) (hall : ∀ f ∈ S.fragments, f ∈ h) :
    (r.bucketOf S.mSuperFrameNo).mFragmentCount =
        (r.bucketOf S.mSuperFrameNo).mOfFragmentNo + 1 ∧
      ∃ f, (r.bucketOf S.mSuperFrameNo).mpFrame = some f ∧ f.mSize = S.data.length ∧
        f.data = S.data.map some := by
  have hwf := Bucket.wellFormed_core.mpr (hrep.wellFormed _ hc.active)
  exact ⟨of_decide_eq_true ((hc.built.complete_iff hc.subset hwf).mpr hall),
    hc.built.frame hc.subset hall⟩

/-- What the round trip makes of a bucket `b`: the fragments in the ranges come
in, and if there are no others missing, the frame is there. -/
structure Bucket.Repaired (b : Bucket) (S : Superframe) (rs : List Range) (b' : Bucket) :
    Prop where
  received : ∀ k, k ∈ b'.mReceivedFragments ↔ k ∈ b.mReceivedFragments ∨ ∃ r ∈ rs, r.Mem k
  completed : (∀ k, b.Missing k → ∃ r ∈ rs, r.Mem k) →
    b'.mFragmentCount = b'.mOfFragmentNo + 1 ∧
      ∃ f, b'.mpFrame = some f ∧ f.mSize = S.data.length ∧ f.data = S.data.map some

theorem Traced.Lacks.repaired {t : Traced B} (hl : t.Lacks S) (ht : t.Faithful) {rs : List Range}
    (hrs : ∀ r ∈ rs, ∀ k, r.Mem k → (t.receiver.bucketOf S.mSuperFrameNo).Missing k)
    (hpackets : ∀ f ∈ S.fragments, Fragment.ofPacket f.packet = some f) (cfg : ReceiverConfig)
    {handed : List (Surroundings × List UInt8)}
    (hhanded : handed.map Prod.snd = (S.within rs).map Fragment.packet) :
    (t.receiver.bucketOf S.mSuperFrameNo).Repaired S rs
      ((Receiver.dispatchAll cfg (t.receiver.bucketOf S.mSuperFrameNo).mSourceId handed
        t.receiver).1.bucketOf S.mSuperFrameNo) := by
  have hc := hl.collects ht
  obtain ⟨-, hcollects⟩ := hl.refilled ht hrs hpackets cfg hhanded
  refine ⟨fun k => ?_, fun hall => ?_⟩
  · have hlast : ∀ r ∈ rs, r.last < S.fragments.length := by
      intro r hr
      have hle := (hrs r hr r.last r.mem_last).1
      have hof : (t.receiver.bucketOf S.mSuperFrameNo).mOfFragmentNo + 1 = S.fragments.length :=
        (hc.built.belongs hl.subset).mOfFragmentNo
      omega
    refine hcollects.built.slots.mem_received.trans ?_
    simp only [List.mem_append, or_and_right, exists_or]
    exact or_congr hc.built.slots.mem_received.symm (Superframe.exists_within hlast)
  · refine hcollects.completed (Receiver.represented_dispatchAll ht.represented cfg _ handed)
      fun f hf => ?_
    by_cases hin : f ∈ t.accepted (B.index S.mSuperFrameNo)
    · exact List.mem_append_left _ hin
    · have hmissing := (hc.built.missing_iff hl.subset hf).mpr hin
      exact List.mem_append_right _ (Superframe.mem_within.mpr ⟨hf, hall _ hmissing⟩)

theorem Traced.Lacks.roundTrip {t : Traced B} (hl : t.Lacks S) (ht : t.Faithful)
    {cfg : SenderConfig} {es : List SenderCall}
    (hkept : ((Sender.machine cfg).run (Sender.new cfg) es).1.retention.Keeps S)
    (hqueue : ((Sender.machine cfg).run (Sender.new cfg) es).1.retention.mRetransmitQueue = [])
    (hpackets : ∀ f ∈ S.fragments, Fragment.ofPacket f.packet = some f) (rcfg : ReceiverConfig)
    {b : Bucket} (hb : t.receiver.bucketOf S.mSuperFrameNo = b) :
    ∃ rs, Coalesced 255 b.Missing rs ∧
      (((Sender.machine cfg).run (Sender.new cfg) es).1.receiveNack b.buildNack).2 = .ok ∧
      ((((Sender.machine cfg).run (Sender.new cfg) es).1.receiveNack
          b.buildNack).1.processRetransmits Sender.sizeMax).2 =
        (S.within (rs.take 255)).map (fun f => { data := f.packet, streamId := S.mStreamId }) ∧
      ∀ handed : List (Surroundings × List UInt8),
        handed.map Prod.snd = (S.within (rs.take 255)).map Fragment.packet →
        (Receiver.dispatchAll rcfg b.mSourceId handed t.receiver).2 =
            List.replicate handed.length .ok ∧
          b.Repaired S (rs.take 255)
            ((Receiver.dispatchAll rcfg b.mSourceId handed t.receiver).1.bucketOf
              S.mSuperFrameNo) := by
  subst hb
  have hc := hl.collects ht
  have hbelongs := Bucket.belongs_core.mp (hc.built.belongs hl.subset)
  have hof : (t.receiver.bucketOf S.mSuperFrameNo).mOfFragmentNo ≤ 8191 :=
    Nat.le_of_lt_succ (ht.represented.wellFormed _ hl.active).of_lt
  obtain ⟨rs, heq, hrs⟩ := (t.receiver.bucketOf S.mSuperFrameNo).nackScan_missing
  have hranges : ∀ r ∈ rs.take 255, ∀ k, r.Mem k →
      (t.receiver.bucketOf S.mSuperFrameNo).Missing k :=
    fun r hr k hk => (hrs.covers k).mpr ⟨r, List.mem_of_mem_take hr, hk⟩
  have hsome : (t.receiver.bucketOf S.mSuperFrameNo).buildNack ≠ [] := by
    obtain ⟨f, hf, hnew⟩ := hl.missing
    intro hnil
    have hmissing := (hc.built.missing_iff hl.subset hf).mpr hnew
    exact (Bucket.buildNack_eq_nil_iff _).mp hnil f.slot hmissing
  refine ⟨rs, hrs, Bucket.receiveNack_buildNack hof heq hrs hsome _,
    Sender.answers_buildNack hkept hqueue hpackets hbelongs hof heq hrs,
    fun handed hhanded => ⟨(hl.refilled ht hranges hpackets rcfg hhanded).1,
      hl.repaired ht hranges hpackets rcfg hhanded⟩⟩

/-- One NACK and its answer repair a frame, as far as the NACK goes: the first
255 ranges of what is missing are sent again, each fragment once, and taken. -/
theorem nack_repairs (cfg : SenderConfig) (before later : List SenderCall) (clk : SendClock)
    (aData : List UInt8) (args : SendArgs) (B : BufferSize) (rcfg : ReceiverConfig)
    (es : List Event) :
    let s₀ := ((Sender.machine cfg).run (Sender.new cfg) before).1
    let s := ((Sender.machine cfg).run (Sender.new cfg) (before ++ .send clk aData args :: later)).1
    let fragments := (s₀.planned cfg aData args).superframe aData (Sender.plan cfg aData.length).2
    let t := (Traced.ofEvents B rcfg es).1
    let b := t.receiver.bucketOf s₀.mSuperFrameNo
    let accepted := t.accepted (B.index s₀.mSuperFrameNo)
    (s₀.send cfg clk aData args).2 = .ok →
    (Sender.plan cfg aData.length).1 * (Sender.plan cfg aData.length).2.lTotalFragments ≤
      maxSuperframeSize →
    (∀ f ∈ fragments, ∃ g,
      s.retention.mRetentionBuffer[makeRetentionKey s₀.mSuperFrameNo (UInt16.ofNat f.slot)]? =
        some g ∧ g.mData = f.packet) →
    s.retention.mRetransmitQueue = [] →
    b.mActive = true → (∀ f ∈ accepted, f ∈ fragments) → (∃ f ∈ fragments, f ∉ accepted) →
    ∃ rs, Coalesced 255 b.Missing rs ∧ (∀ rs', Coalesced 255 b.Missing rs' → rs' = rs) ∧
      let asked := fragments.filter fun f => ∃ r ∈ rs.take 255, r.Mem f.slot
      let answer := ((s.receiveNack b.buildNack).1.processRetransmits Sender.sizeMax).2
      (s.receiveNack b.buildNack).2 = .ok ∧
      answer = asked.map (fun f => { data := f.packet, streamId := args.aStreamId }) ∧
      (rs.length ≤ 255 → asked = fragments.filter fun f => f ∉ accepted) ∧
      ∀ handed : List (Surroundings × List UInt8), handed.map Prod.snd = answer.map Packet.data →
        let handled := Receiver.dispatchAll rcfg b.mSourceId handed t.receiver
        let b' := handled.1.bucketOf s₀.mSuperFrameNo
        handled.2 = List.replicate handed.length .ok ∧
        (∀ k, k ∈ b'.mReceivedFragments ↔
          k ∈ b.mReceivedFragments ∨ ∃ r ∈ rs.take 255, r.Mem k) ∧
        (rs.length ≤ 255 → b'.mFragmentCount = b'.mOfFragmentNo + 1 ∧
          ∃ f, b'.mpFrame = some f ∧ f.mSize = aData.length ∧ f.data = aData.map some) := by
  intro s₀ s fragments t b accepted hsend hle hkept hqueue hactive hsubset hmissing
  have h : Sender.Sendable cfg aData := by
    rcases Sender.send_cases cfg clk s₀ aData args with ⟨h, -⟩ | ⟨-, res, hres, hrefused⟩
    · exact h
    · rw [hrefused] at hsend
      exact absurd hsend hres
  have hfragments : (Sender.superframeOf h hle s₀ args).fragments = fragments :=
    Sender.fragments_superframeOf h hle s₀ args
  have hdata : (Sender.superframeOf h hle s₀ args).data = aData := by
    rw [Superframe.data, hfragments]
    exact Sender.payload_planned h s₀ args
  have hpackets : ∀ f ∈ (Sender.superframeOf h hle s₀ args).fragments,
      Fragment.ofPacket f.packet = some f :=
    fun f hf => Outgoing.ofPacket_superframe (hfragments ▸ hf)
  have ht : t.Faithful := Traced.faithful_run Traced.faithful_fresh rcfg _
  rw [← hfragments] at hkept hsubset hmissing
  have hl : t.Lacks (Sender.superframeOf h hle s₀ args) := ⟨hactive, hsubset, hmissing⟩
  have hbuilt := (hl.collects ht).built
  obtain ⟨rs, hrs, hok, hanswer, hhandled⟩ :=
    hl.roundTrip ht hkept hqueue hpackets rcfg (b := b) rfl
  have hasked : (Sender.superframeOf h hle s₀ args).within (rs.take 255) =
      fragments.filter fun f => ∃ r ∈ rs.take 255, r.Mem f.slot :=
    congrArg (List.filter _) hfragments
  have hcovers : rs.length ≤ 255 → ∀ k, b.Missing k ↔ ∃ r ∈ rs.take 255, r.Mem k := by
    intro hfew
    rw [List.take_of_length_le hfew]
    exact hrs.covers
  refine ⟨rs, hrs, fun rs' hrs' => hrs'.unique hrs, hok, ?_, fun hfew => ?_,
    fun handed hhanded => ?_⟩
  · rw [← hasked]
    exact hanswer
  · refine List.filter_congr fun f hf => ?_
    rw [decide_eq_decide, ← hcovers hfew]
    exact hbuilt.missing_iff hl.subset (hfragments ▸ hf)
  · rw [hanswer, List.map_map] at hhanded
    obtain ⟨hres, hreceived, hcompleted⟩ := hhandled handed hhanded
    rw [hdata] at hcompleted
    exact ⟨hres, hreceived, fun hfew => hcompleted fun k => (hcovers hfew k).mp⟩

namespace Sample

/-- The packets of `payload`: a bundle of eight, a bundle of one, and a Type2. -/
def payloadPackets : List Packet :=
  ((Sender.new eighthCfg).send eighthCfg (clockAt 0) payload sendArgs).1.2

/-- Of these, the first one is lost. -/
def lossyEvents : List Event := (payloadPackets.drop 1).map fun p => .receive env clk p.data 0

end Sample

theorem nack_repairs_lossyEvents :
    let s := ((Sender.machine Sample.eighthCfg).run (Sender.new Sample.eighthCfg)
      [.send (Sample.clockAt 0) Sample.payload Sample.sendArgs]).1
    let b := (Traced.ofEvents .default {} Sample.lossyEvents).1.receiver.bucketOf 0
    b.mFragmentCount = 2 ∧ (s.receiveNack b.buildNack).2 = .ok ∧
      ∃ rs, Coalesced 255 b.Missing rs ∧ ∀ rs', Coalesced 255 b.Missing rs' → rs' = rs := by
  intro s b
  have hkept : ∀ f ∈ (((Sender.machine Sample.eighthCfg).run (Sender.new Sample.eighthCfg)
        []).1.planned Sample.eighthCfg Sample.payload Sample.sendArgs).superframe Sample.payload
          (Sender.plan Sample.eighthCfg Sample.payload.length).2,
      (((Sender.machine Sample.eighthCfg).run (Sender.new Sample.eighthCfg)
          ([] ++ [.send (Sample.clockAt 0) Sample.payload
            Sample.sendArgs])).1.retention.mRetentionBuffer[makeRetentionKey
              ((Sender.machine Sample.eighthCfg).run (Sender.new Sample.eighthCfg)
                []).1.mSuperFrameNo (UInt16.ofNat f.slot)]?).map RetainedFragment.mData =
        some f.packet := by
    decide +kernel
  obtain ⟨rs, hrs, hunique, hok, -⟩ := nack_repairs Sample.eighthCfg [] [] (Sample.clockAt 0)
    Sample.payload Sample.sendArgs .default {} Sample.lossyEvents (by decide +kernel)
    (by decide +kernel) (fun f hf => Option.map_eq_some_iff.mp (hkept f hf)) (by decide +kernel)
    (by decide +kernel) (by decide +kernel) (by decide +kernel)
  exact ⟨by decide +kernel, hok, rs, hrs, hunique⟩

end ElasticFrame
