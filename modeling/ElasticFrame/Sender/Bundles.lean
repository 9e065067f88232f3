import ElasticFrame.Sender.Law
import ElasticFrame.Receiver.Bundle

/-!
Which of the sender's bundles its receiver can take apart.

`handleType4` divides the payload of a bundle evenly and insists that every
part is a Type1 frame. The sender lays its bundles out for that, but when it
puts a fragment into one that has been asked for again, it looks at the size
of the fragment and not at its type. The retained fragments include the
Type2 of every superframe sent before, and one of them may happen to have
the size of a Type1.
-/

namespace ElasticFrame

open Lib

/-! ### Bundles the receiver accepts -/

/-- The payload of a bundle is its frames, all of one size and all Type1. -/
structure WellShaped (data : List UInt8) : Prop where
  count_pos : 1 ≤ (FrameType4.read data).mFrameCount.toNat
  frames : ∃ lFrameSize, FrameType1.sizeof ≤ lFrameSize ∧
    data.length =
      FrameType4.sizeof + (FrameType4.read data).mFrameCount.toNat * lFrameSize ∧
    ∀ lI < (FrameType4.read data).mFrameCount.toNat,
      getFrameType (byteAt data (FrameType4.sizeof + lI * lFrameSize)) = some .type1

/-- The receiver finds nothing wrong with the packet itself: in any state it
answers success, or what `handleType1` answers on one of the frames after those
before it. -/
def Accepted (data : List UInt8) : Prop :=
  WellShaped data ∧
    ∀ (B : BufferSize) (cfg : ReceiverConfig) (r : Receiver B) (env : Surroundings) (src : UInt8),
      (r.handleType4 cfg env data src).2 = .ok ∨
        ∃ front member back, frames data = front ++ member :: back ∧
          FrameType1.sizeof ≤ member.length ∧
          getFrameType (byteAt member 0) = some .type1 ∧
          (memberResult (Receiver.handleMember cfg env src) 0 front member r).endsBundle ∧
          (r.handleType4 cfg env data src).2 =
            memberResult (Receiver.handleMember cfg env src) 0 front member r

theorem byteAt_take_drop {data : List UInt8} {off len i : ℕ} (h : i < len) :
    byteAt ((data.drop off).take len) i = byteAt data (off + i) := by
  simp only [byteAt, List.getD_eq_getElem?_getD, List.getElem?_take, List.getElem?_drop, if_pos h]

/-- The loop over frames that are all Type1 ends with success or with the
result of the one that ends it. -/
theorem bundleLoop_result {σ : Type*} (handle : σ → ℕ → List UInt8 → σ × Result)
    {apData : List UInt8} {lFrameSize : ℕ} (hsize : FrameType1.sizeof ≤ lFrameSize)
    (count lI lOffset : ℕ) (s : σ) (hlength : lOffset + count * lFrameSize = apData.length)
    (htype : ∀ j < count, getFrameType (byteAt apData (lOffset + j * lFrameSize)) = some .type1) :
    (bundleLoop handle apData lFrameSize count lI lOffset s).2 = .ok ∨
      ∃ front member back,
        ((List.range count).map fun j => (apData.drop (lOffset + j * lFrameSize)).take lFrameSize) =
          front ++ member :: back ∧
        FrameType1.sizeof ≤ member.length ∧
        getFrameType (byteAt member 0) = some .type1 ∧
        (memberResult handle lI front member s).endsBundle ∧
        (bundleLoop handle apData lFrameSize count lI lOffset s).2 =
          memberResult handle lI front member s := by
  induction count generalizing lI lOffset s with
  | zero =>
      rw [Nat.zero_mul, Nat.add_zero] at hlength
      exact .inl (if_pos hlength)
  | succ count ih =>
      have hfirst := htype 0 (Nat.succ_pos _)
      rw [Nat.zero_mul, Nat.add_zero] at hfirst
      rw [Nat.succ_mul] at hlength
      rw [List.range_succ_eq_map, List.map_cons, List.map_map, Nat.zero_mul, Nat.add_zero]
      simp only [bundleLoop, hfirst, not_true_eq_false, if_false, ne_eq]
      split_ifs with hstop
      · have h8 : FrameType1.sizeof = 8 := rfl
        refine .inr ⟨[], (apData.drop lOffset).take lFrameSize, _, rfl, ?_, ?_, hstop, rfl⟩
        · rw [List.length_take, List.length_drop]
          omega
        · rw [byteAt_take_drop (by omega), Nat.add_zero]
          exact hfirst
      · have hnext : ∀ j, lOffset + lFrameSize + j * lFrameSize =
            lOffset + (j + 1) * lFrameSize := by
          intro j
          rw [Nat.succ_mul]
          omega
        rcases ih (lI + 1) (lOffset + lFrameSize)
          (handle s lI ((apData.drop lOffset).take lFrameSize)).1 (by omega)
          (fun j hj => by rw [hnext]; exact htype (j + 1) (by omega)) with
          hok | ⟨front, member, back, hsplit, hlen, htype1, hends, hresult⟩
        · exact .inl hok
        · refine .inr ⟨(apData.drop lOffset).take lFrameSize :: front, member, back, ?_, hlen,
            htype1, by rwa [memberResult_cons], by rwa [memberResult_cons]⟩
          rw [List.cons_append, ← hsplit]
          congr 1
          apply List.map_congr_left
          intro j _
          rw [hnext]
          rfl

theorem accepted_iff {data : List UInt8} (hbundle : IsBundle data) :
    Accepted data ↔ WellShaped data := by
  refine ⟨And.left, fun h => ⟨h, fun B cfg r env src => ?_⟩⟩
  obtain ⟨hcount, lFrameSize, hsize, hlength, htype⟩ := h
  have h2 : FrameType4.sizeof = 2 := rfl
  have hpayload : data.length - FrameType4.sizeof =
      (FrameType4.read data).mFrameCount.toNat * lFrameSize := by omega
  have hsame : r.SameButStatistics r.countBundle := ⟨_, rfl⟩
  simp only [Receiver.handleType4, hpayload, Nat.mul_mod_right, ne_eq, not_true_eq_false, if_false,
    Nat.mul_div_cancel_left _ hcount, frames, if_pos hbundle]
  rw [if_neg (by omega), if_neg (by omega), if_neg (by omega)]
  simp only [Receiver.memberResult_eq hsame]
  exact bundleLoop_result _ hsize _ 0 _ _ hlength.symm htype

theorem byteAt_append_left {pre post : List UInt8} {i : ℕ} (h : i < pre.length) :
    byteAt (pre ++ post) i = byteAt pre i := by
  simp only [byteAt, List.getD_eq_getElem?_getD, List.getElem?_append_left h]

theorem byteAt_append_right (pre post : List UInt8) (i : ℕ) :
    byteAt (pre ++ post) (pre.length + i) = byteAt post i := by
  simp only [byteAt, List.getD_eq_getElem?_getD, List.getElem?_append_right (Nat.le_add_right _ _),
    Nat.add_sub_cancel_left]

/-- The first byte of a frame, where it lies among frames of one size. -/
theorem byteAt_flatten {members : List (List UInt8)} {size : ℕ} (hpos : 0 < size)
    (hlength : ∀ m ∈ members, m.length = size) {lI : ℕ} (h : lI < members.length) :
    byteAt members.flatten (lI * size) = byteAt members[lI] 0 := by
  induction members generalizing lI with
  | nil => exact absurd h (Nat.not_lt_zero _)
  | cons m members ih =>
      have hm := hlength m List.mem_cons_self
      rw [List.flatten_cons]
      cases lI with
      | zero =>
          rw [Nat.zero_mul]
          exact byteAt_append_left (by omega)
      | succ lI =>
          rw [Nat.succ_mul, Nat.add_comm, ← hm, byteAt_append_right, hm]
          exact ih (fun m hm => hlength m (List.mem_cons_of_mem _ hm)) (Nat.lt_of_succ_lt_succ h)

/-- A bundle of frames of one size is well shaped when they are all Type1. -/
theorem wellShaped_bundle_iff (o : Outgoing) {members : List (List UInt8)} {size : ℕ}
    (hpos : 0 < members.length) (hcount : members.length < 256)
    (hsize : FrameType1.sizeof ≤ size) (hlength : ∀ m ∈ members, m.length = size) :
    WellShaped (Sender.bundle o members).data ↔
      ∀ m ∈ members, getFrameType (byteAt m 0) = some .type1 := by
  have h8 : FrameType1.sizeof = 8 := rfl
  have hread : (FrameType4.read (Sender.bundle o members).data).mFrameCount.toNat =
      members.length := UInt8.toNat_ofNat_of_lt' hcount
  have htotal : (Sender.bundle o members).data.length =
      FrameType4.sizeof + members.length * size := by
    rw [Sender.bundle, List.length_append, FrameType4.length_bytes,
      length_flatten_of_forall hlength]
    rfl
  have hbyte : ∀ (lI : ℕ) (h : lI < members.length),
      byteAt (Sender.bundle o members).data (FrameType4.sizeof + lI * size) =
        byteAt members[lI] 0 := by
    intro lI h
    rw [← byteAt_flatten (by omega) hlength h]
    exact byteAt_append_right (o.type4 members.length).bytes _ _
  constructor
  · rintro ⟨hc, lFrameSize, hframe, hlen, htype⟩
    rw [hread] at hlen htype
    have heq : lFrameSize = size :=
      Nat.eq_of_mul_eq_mul_left hpos (Nat.add_left_cancel (hlen.symm.trans htotal))
    intro m hm
    obtain ⟨lI, h, rfl⟩ := List.getElem_of_mem hm
    rw [← hbyte lI h, ← heq]
    exact htype lI h
  · intro h
    refine ⟨by omega, size, hsize, by rw [hread]; exact htotal, fun lI hlt => ?_⟩
    rw [hread] at hlt
    rw [hbyte lI hlt]
    exact h _ (List.getElem_mem hlt)

/-! ### The bundles of a run -/

/-- Nothing is wrong with the packet if it is a bundle. -/
def AcceptedBundle (p : Packet) : Prop := IsBundle p.data → Accepted p.data

/-- A fragment that is taken and has the size of the Type1 fragments is one. -/
def Retention.TakesType1 (cfg : SenderConfig) (s : Retention) : StoreCall → Prop
  | .take => ∀ served ∈ s.take.2, served.2.mData.length = Sender.type1FrameSize cfg →
      getFrameType (byteAt served.2.mData 0) = some .type1
  | .evict _ | .retain .. | .request _ _ => True

namespace Sender

variable {cfg : SenderConfig} {o : Outgoing} {apData : List UInt8} {n lFragIdx : ℕ}

/-- Every `send` takes nothing but Type1 fragments, or fragments of another
size. -/
def BundlesType1 (cfg : SenderConfig) (s : Sender) : SenderCall → Prop
  | .send clk aData args =>
      (Retention.machine cfg).Along (Retention.TakesType1 cfg) s.retention
        (s.sendCalls cfg clk aData args)
  | .receiveNack _ | .processRetransmits _ => True

theorem along_takesType1 (s : Retention) {calls : List StoreCall} (h : .take ∉ calls) :
    (Retention.machine cfg).Along (Retention.TakesType1 cfg) s calls := by
  apply Machine.along_of_forall
  intro s call hcall
  cases call with
  | take => exact absurd hcall h
  | evict | retain | request => trivial

theorem take_notMem_tailCalls (clk : SendClock) (p : Packetization) :
    .take ∉ tailCalls clk o apData p := by
  rw [tailCalls]
  split_ifs <;> simp [fragmentCall]

/-- The retransmit that goes into a bundle is the one that is taken, if it has
the size. -/
theorem bundledRetransmit_type1 (hframe : o.lType1FrameSize = type1FrameSize cfg) (room : ℕ)
    (s : Sender) :
    (∀ lRetransmit ∈ s.bundledRetransmit o room,
        getFrameType (byteAt lRetransmit.data 0) = some .type1) ↔
      (Retention.machine cfg).Along (Retention.TakesType1 cfg) s.retention (s.takeCalls room) := by
  rw [bundledRetransmit, takeRetransmit, takeCalls]
  split_ifs
  · rw [s.getRetransmitFragment_eq.2, Machine.along_cons, and_iff_left (Machine.along_nil _ _ _),
      Retention.TakesType1]
    cases s.retention.take.2 with
    | none => simp
    | some served =>
        simp only [Option.map_some, Option.filter_some, hframe, Option.mem_def]
        by_cases hsize : served.2.packet.data.length = type1FrameSize cfg
        · simp only [hsize, decide_true, if_true, Option.some.injEq, forall_eq', true_implies,
            show served.2.mData.length = type1FrameSize cfg from hsize]
          rfl
        · simp [hsize, show served.2.mData.length ≠ type1FrameSize cfg from hsize]
  · simp

theorem accepted_iteration {s : Sender} {sent : Bundled} {clk : SendClock}
    (hs : Holds cfg s.retention) (hmode : cfg.mSubFragmentMode ≠ .single)
    (hframe : o.lType1FrameSize = type1FrameSize cfg)
    (hdata : n * o.aType1PayloadSize ≤ apData.length) (h : lFragIdx < n)
    (hsent : Iterated cfg clk o apData n lFragIdx s sent) :
    (∀ p ∈ sent.packets, AcceptedBundle p) ↔
      ∀ lRetransmit ∈ s.bundledRetransmit o (bundleRoom cfg n lFragIdx),
        getFrameType (byteAt lRetransmit.data 0) = some .type1 := by
  obtain ⟨hcount, hlength⟩ := bundleMembers_spec hdata hsent
  obtain ⟨hpos, height, -⟩ := bundleRoom_spec hmode hframe h
  have halone : ∀ p ∈ (s.aloneRetransmit o (bundleRoom cfg n lFragIdx)).toList,
      AcceptedBundle p := by
    intro p hp hbundle
    have hfilter := Option.mem_toList.mp hp
    rw [aloneRetransmit, Option.filter_eq_some_iff] at hfilter
    exact absurd hbundle (travels_takeRetransmit hs hfilter.1).1
  have hbundle : AcceptedBundle
      (bundle o (bundleMembers cfg o apData n lFragIdx s sent.lFragsInBundle)) ↔
      ∀ m ∈ bundleMembers cfg o apData n lFragIdx s sent.lFragsInBundle,
        getFrameType (byteAt m 0) = some .type1 := by
    rw [AcceptedBundle, imp_iff_right (isBundle_bundle o _),
      accepted_iff (isBundle_bundle o _)]
    exact wellShaped_bundle_iff o (by omega) (by omega) (Nat.le_add_right _ _) hlength
  have hpackets : sent.packets = (s.aloneRetransmit o (bundleRoom cfg n lFragIdx)).toList ++
      [bundle o (bundleMembers cfg o apData n lFragIdx s sent.lFragsInBundle)] := hsent.packets
  rw [hpackets]
  constructor
  · intro haccepted lRetransmit hmem
    apply hbundle.mp (haccepted _ (List.mem_append_right _ (List.mem_singleton.mpr rfl)))
    apply List.mem_append_left
    exact List.mem_map_of_mem (Option.mem_toList.mpr hmem)
  · intro htype p hp
    rcases List.mem_append.mp hp with hp | hp
    · exact halone p hp
    · rw [List.mem_singleton.mp hp]
      apply hbundle.mpr
      intro m hm
      rcases List.mem_append.mp hm with hm | hm
      · obtain ⟨lRetransmit, hmem, rfl⟩ := List.mem_map.mp hm
        exact htype lRetransmit (Option.mem_toList.mp hmem)
      · obtain ⟨k, -, rfl⟩ := List.mem_map.mp hm
        exact getFrameType_makeFrameTypeByte .type1 o.aFlags

theorem accepted_bundleLoop (clk : SendClock) (hmode : cfg.mSubFragmentMode ≠ .single)
    (hframe : 0 < n → o.lType1FrameSize = type1FrameSize cfg)
    (hdata : n * o.aType1PayloadSize ≤ apData.length)
    (htravels : ∀ k < n, Travels cfg (o.packet1 apData k)) (lFragIdx : ℕ) (s : Sender)
    (hs : Holds cfg s.retention) :
    (∀ p ∈ (bundleLoop cfg clk o apData n lFragIdx (lFragIdx * o.aType1PayloadSize) s).2,
        AcceptedBundle p) ↔
      (Retention.machine cfg).Along (Retention.TakesType1 cfg) s.retention
        (bundleCalls cfg clk o apData n lFragIdx s) := by
  induction lFragIdx, s using bundleCalls.induct cfg clk o apData n with
  | case1 lFragIdx s h sent ih =>
      have hsent := bundleIteration_spec cfg clk hdata h s
      change Iterated cfg clk o apData n lFragIdx s sent at hsent
      have hfull := hframe (by omega)
      obtain ⟨hnext, hafter⟩ := hs.iterated htravels hsent
      rw [bundleLoop, bundleCalls, dif_pos h, dif_pos h]
      dsimp only
      rw [← Nat.add_mul, ← List.append_assoc, Machine.along_append, Machine.along_append,
        ← bundledRetransmit_type1 hfull, ← accepted_iteration hs hmode hfull hdata h hsent,
        and_iff_left (along_takesType1 _ (take_notMem_type1Calls clk _ _))]
      have hrest : ((Retention.machine cfg).run s.retention
          (s.takeCalls (bundleRoom cfg n lFragIdx) ++
            type1Calls clk o apData sent.lFragsInBundle lFragIdx)).1 = sent.sender.retention :=
        hafter.symm
      rw [hrest, ← ih hnext]
      simp only [List.mem_append, or_imp, forall_and]
      rfl
  | case2 lFragIdx s h =>
      rw [bundleLoop, bundleCalls, dif_neg h, dif_neg h]
      exact iff_of_true (fun p hp => absurd hp List.not_mem_nil) trivial

theorem accepted_sendPlanned (clk : SendClock) {s : Sender} (hs : Holds cfg s.retention)
    {aData : List UInt8} (h : Sendable cfg aData) (args : SendArgs) :
    (∀ p ∈ (sendPlanned cfg clk s aData args).2, AcceptedBundle p) ↔
      (Retention.machine cfg).Along (Retention.TakesType1 cfg) s.retention
        (superframeCalls cfg clk (s.planned cfg aData args) aData (plan cfg aData.length).2
          s.numbered) := by
  have hdata : (plan cfg aData.length).2.lNumType1Fragments *
      (s.planned cfg aData args).aType1PayloadSize ≤ aData.length := by
    have hsize := h.cuts.size
    change _ * (plan cfg aData.length).1 ≤ _
    omega
  have htype1 : ∀ k < (plan cfg aData.length).2.lNumType1Fragments,
      Travels cfg ((s.planned cfg aData args).packet1 aData k) := by
    intro k hk
    apply travels_superframe h s args
    exact List.mem_append_left _ (List.mem_map_of_mem (List.mem_range.mpr hk))
  have htail : ∀ p ∈ ((s.planned cfg aData args).tail aData (plan cfg aData.length).2).map
      (fun data => ({ data, streamId := args.aStreamId } : Packet)), AcceptedBundle p := by
    intro p hp hbundle
    obtain ⟨data, hmem, rfl⟩ := List.mem_map.mp hp
    exact absurd hbundle (travels_superframe h s args (List.mem_append_right _ hmem)).1
  rw [(sendPlanned_spec clk s h args).2, superframeCalls, Machine.along_append,
    and_iff_left (along_takesType1 _ (take_notMem_tailCalls clk _))]
  simp only [List.mem_append, or_imp, forall_and, and_iff_left htail]
  split_ifs with hsingle
  · refine iff_of_true (fun p hp hbundle => ?_)
      (along_takesType1 _ (take_notMem_type1Calls clk _ _))
    obtain ⟨k, hk, rfl⟩ := List.mem_map.mp hp
    exact absurd hbundle (htype1 k (List.mem_range.mp hk)).1
  · have hframe : 0 < (plan cfg aData.length).2.lNumType1Fragments →
        (s.planned cfg aData args).lType1FrameSize = type1FrameSize cfg := plan_fst
    have hloop := accepted_bundleLoop clk hsingle hframe hdata htype1 0 s.numbered hs
    rwa [Nat.zero_mul] at hloop

theorem accepted_send (clk : SendClock) {s : Sender} (hs : Holds cfg s.retention)
    (aData : List UInt8) (args : SendArgs) :
    (∀ p ∈ (s.send cfg clk aData args).1.2, AcceptedBundle p) ↔
      BundlesType1 cfg s (.send clk aData args) := by
  have hevict : (Retention.machine cfg).Along (Retention.TakesType1 cfg) s.retention
      (if cfg.mRetentionMs > 0 then [.evict clk.evict] else []) := by
    apply along_takesType1
    split_ifs <;> simp
  rw [BundlesType1, sendCalls]
  rcases send_cases cfg clk s aData args with ⟨h, hsend⟩ | ⟨h, res, -, hsend⟩
  · rw [hsend, if_neg (not_or.mpr ⟨h.ne_nil, not_lt.mpr h.size_le⟩), if_pos h,
      Machine.along_append, and_iff_right hevict]
    have hevicted := @evicted_retention cfg clk s
    rw [Retention.after] at hevicted
    rw [← hevicted]
    exact accepted_sendPlanned clk (hs.evicted clk) h args
  · rw [hsend, if_neg h, List.append_nil]
    refine iff_of_true (fun p hp => absurd hp List.not_mem_nil) ?_
    by_cases hrefused : aData = [] ∨ aData.length > maxSuperframeSize
    · rw [if_pos hrefused]
      trivial
    · rw [if_neg hrefused]
      exact hevict

theorem accepted_step {s : Sender} (hs : Holds cfg s.retention) (e : SenderCall) :
    (∀ p ∈ ((Sender.machine cfg).step s e).2, AcceptedBundle p) ↔ BundlesType1 cfg s e := by
  cases e with
  | send clk aData args => exact accepted_send clk hs aData args
  | receiveNack aData => exact iff_of_true (fun p hp => absurd hp List.not_mem_nil) trivial
  | processRetransmits aMaxCount =>
      refine iff_of_true (fun p hp hbundle => ?_) trivial
      exact absurd hbundle (travels_processRetransmits hs aMaxCount p hp).1

/-- The bundles of a run are ones the receiver accepts, just as long as every
fragment that a `send` takes for a bundle, because it has the size of the Type1
fragments, is one. -/
theorem accepted_run_iff (cfg : SenderConfig) (es : List SenderCall) :
    (∀ p ∈ ((Sender.machine cfg).run (Sender.new cfg) es).2, AcceptedBundle p) ↔
      (Sender.machine cfg).Along (BundlesType1 cfg) (Sender.new cfg) es := by
  apply (Sender.machine cfg).run_output_iff (I := fun s => Holds cfg s.retention)
  · intro s e hs
    rw [step_retention]
    exact hs.after (makes_storeCalls cfg s e)
  · exact fun s e hs => accepted_step hs e
  · exact holds_empty cfg

end Sender

/-! ### A bundle with a Type2 in it -/

namespace Sample

/-- The Type1 fragments of this configuration are 31 bytes long. -/
def eighthCfg : SenderConfig := SenderConfig.new 256 .eighth 1000 10000

/-- A superframe in one Type2 of 31 bytes is asked for again, and a larger one
is sent. -/
def mixedRun : List SenderCall := [sendAt 0 4, .receiveNack nack, sendAt 0 230]

end Sample

theorem not_accepted_mixedRun :
    ¬ ∀ p ∈ ((Sender.machine Sample.eighthCfg).run (Sender.new Sample.eighthCfg)
      Sample.mixedRun).2, AcceptedBundle p := by
  intro h
  have hmixed : ∃ p ∈ ((Sender.machine Sample.eighthCfg).run (Sender.new Sample.eighthCfg)
      Sample.mixedRun).2, IsBundle p.data ∧
        getFrameType (byteAt p.data FrameType4.sizeof) = some .type2 := by
    decide +kernel
  obtain ⟨p, hp, hbundle, htype2⟩ := hmixed
  obtain ⟨hcount, lFrameSize, -, -, htype1⟩ := (accepted_iff hbundle).mp (h p hp hbundle)
  have hfirst := htype1 0 hcount
  rw [Nat.zero_mul, Nat.add_zero, htype2] at hfirst
  cases hfirst

end ElasticFrame
