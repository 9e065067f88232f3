import ElasticFrame.Sender.Law

/-!
The limit on the size of a superframe. `send` compares it with the size of the
data, and the receiver with what the fragment that opens a bucket makes it
allocate. The two differ, since the last fragment is seldom of full size.
-/

namespace ElasticFrame

open Lib

/-! ### What the receiver answers -/

theorem Fragment.check_of_totalSize_le {f : Fragment} (h : f.totalSize ≤ maxSuperframeSize) :
    f.check ≠ some .tooLargeFrame ∧ f.oversized = false := by
  cases f with
  | type1 d =>
      refine ⟨?_, ?_⟩
      · rw [check]
        split_ifs <;> simp
      · rw [oversized, decide_eq_false_iff_not, not_lt]
        exact (Nat.le_div_iff_mul_le (Nat.succ_pos _)).mpr h
  | type2 d =>
      refine ⟨?_, rfl⟩
      simp only [check, if_neg (not_lt.mpr h)]
      split_ifs <;> simp
  | type3 d =>
      refine ⟨?_, rfl⟩
      simp only [check, if_neg (not_lt.mpr h)]
      split_ifs <;> simp

theorem Fragment.clash_ne_tooLargeFrame (f : Fragment) (aSourceId : UInt8) (b : Bucket) :
    f.clash aSourceId b ≠ some .tooLargeFrame := by
  cases f <;> rw [clash] <;> split_ifs <;> simp

/-- The decision on a fragment whose estimate is within the limit. -/
theorem Fragment.verdict_of_totalSize_le (f : Fragment) (h : f.totalSize ≤ maxSuperframeSize)
    (aSourceId : UInt8) (b : Bucket) (lOrder : ℤ) :
    f.verdict aSourceId b lOrder ≠ .reject .tooLargeFrame ∧
      f.verdict aSourceId b lOrder ≠ .stale .tooLargeFrame := by
  obtain ⟨hcheck, hsized⟩ := check_of_totalSize_le h
  have hclash := f.clash_ne_tooLargeFrame aSourceId b
  rw [verdict]
  by_cases hshort : f.packet.length < f.headerSize
  · simp [if_pos hshort]
  rw [if_neg hshort]
  cases hres : f.check with
  | some res =>
      rw [hres] at hcheck
      simpa using hcheck
  | none =>
      simp only [hsized, Bool.false_eq_true, if_false]
      split_ifs
      · simp
      · simp
      · cases hres : f.clash aSourceId b with
        | none => simp
        | some res =>
            rw [hres] at hclash
            cases res <;> simp at hclash ⊢

namespace Receiver

variable {B : BufferSize}

theorem openBucket_ne_tooLargeFrame (cfg : ReceiverConfig) (r : Receiver B) (now : ℤ)
    (memalign : Bool) (lOrder : ℤ) (o : Opening) (apData : List UInt8) :
    (r.openBucket cfg now memalign lOrder o apData).2 ≠ .tooLargeFrame := by
  rw [openBucket]
  dsimp only
  split_ifs <;> simp

/-- A fragment whose estimate is within the limit is never too large. -/
theorem handle_ne_tooLargeFrame {f : Fragment} (h : f.totalSize ≤ maxSuperframeSize)
    (cfg : ReceiverConfig) (r : Receiver B) (now : ℤ) (memalign : Bool) (aSourceId : UInt8) :
    (r.handle cfg now memalign aSourceId f).2 ≠ .tooLargeFrame := by
  obtain ⟨hreject, hstale⟩ :=
    f.verdict_of_totalSize_le h aSourceId (r.bucketOf f.superFrameNo) (r.unwrapped f.superFrameNo)
  rw [handle_eq]
  generalize f.verdict aSourceId (r.bucketOf f.superFrameNo) (r.unwrapped f.superFrameNo) = v at *
  cases v with
  | short | duplicate | fill => simp [act]
  | reject res => exact fun htoo => hreject (congrArg Verdict.reject htoo)
  | stale res => exact fun htoo => hstale (congrArg Verdict.stale htoo)
  | «open» => exact openBucket_ne_tooLargeFrame cfg _ now memalign _ _ _

/-- A fragment for a bucket that is not active is too large when nothing but
its estimate is wrong. -/
theorem handle_tooLargeFrame {f : Fragment} (hlength : f.headerSize ≤ f.packet.length)
    (hlarge : f.check = some .tooLargeFrame ∨ f.check = none ∧ f.oversized = true)
    (cfg : ReceiverConfig) {r : Receiver B} (now : ℤ) (memalign : Bool) (aSourceId : UInt8)
    (hinactive : (r.bucketOf f.superFrameNo).mActive = false)
    (horder : r.unwrapped f.superFrameNo ≠ (r.bucketOf f.superFrameNo).mDeliveryOrder) :
    (r.handle cfg now memalign aSourceId f).2 = .tooLargeFrame := by
  rw [handle_eq, Fragment.verdict, if_neg (not_lt.mpr hlength)]
  rcases hlarge with hcheck | ⟨hcheck, hsized⟩
  · rw [hcheck]
    rfl
  · rw [hcheck]
    simp only [if_pos hinactive, if_neg horder, hsized, if_true]
    rfl

end Receiver

/-- The packet of a fragment that reaches a bucket that is not active is never
refused as too large. -/
def Admitted (data : List UInt8) : Prop :=
  ∀ f, Fragment.ofPacket data = some f →
    ∀ (B : BufferSize) (cfg : ReceiverConfig) (r : Receiver B) (now : ℤ) (memalign : Bool)
      (aSourceId : UInt8), (r.bucketOf f.superFrameNo).mActive = false →
      (r.handle cfg now memalign aSourceId f).2 ≠ .tooLargeFrame

theorem not_admitted {f : Fragment} (hpacket : Fragment.ofPacket f.packet = some f)
    (hlength : f.headerSize ≤ f.packet.length)
    (hlarge : f.check = some .tooLargeFrame ∨ f.check = none ∧ f.oversized = true) :
    ¬ Admitted f.packet := by
  intro h
  apply h f hpacket .default {} (Receiver.fresh .default) 0 true 0 rfl
  apply Receiver.handle_tooLargeFrame hlength hlarge _ _ _ _ rfl
  have hlt := f.superFrameNo.toNat_lt
  change (f.superFrameNo.toNat : ℤ) ≠ 2 ^ 63 - 1
  omega

/-! ### The estimates of a superframe -/

/-- In a superframe of more than one fragment no Type2 carries more than a
Type1 would. -/
theorem packetize_type2_le {mMtu aType1PayloadSize aSize : ℕ} (hpos : 0 < aType1PayloadSize) :
    (packetize mMtu aType1PayloadSize aSize).lType2DataSize ≤ aType1PayloadSize := by
  have hmod := Nat.mod_lt aSize hpos
  unfold packetize
  generalize aSize / aType1PayloadSize = q
  generalize aSize % aType1PayloadSize = rem at hmod ⊢
  simp only
  split_ifs <;> dsimp only <;> omega

/-- What is more than a Type2 holds is sent in more than one fragment. -/
theorem packetize_multiple {mMtu aType1PayloadSize aSize : ℕ}
    (hlarge : mMtu - FrameType2.sizeof < aSize) :
    0 < (packetize mMtu aType1PayloadSize aSize).lNumType1Fragments ∨
      (packetize mMtu aType1PayloadSize aSize).lNeedsType3 = true := by
  have hdiv := Nat.div_add_mod' aSize aType1PayloadSize
  unfold packetize
  generalize hq : aSize / aType1PayloadSize = q at hdiv ⊢
  generalize aSize % aType1PayloadSize = rem at hdiv ⊢
  simp only
  split_ifs with hzero hfit hfit hcombined
  · refine .inl ?_
    dsimp only
    rcases q with _ | _ | q
    · omega
    · omega
    · omega
  · exact .inr rfl
  · refine .inl (Nat.pos_of_ne_zero fun hzero => ?_)
    dsimp only at hzero
    subst hzero
    omega
  · exact .inr rfl
  · exact .inr rfl

namespace Sender

variable {cfg : SenderConfig} {aData : List UInt8}

/-- The receiver's estimate of a superframe, if all of its fragments were
of full size. -/
def estimate (cfg : SenderConfig) (aSize : ℕ) : ℕ :=
  (plan cfg aSize).1 * (plan cfg aSize).2.lTotalFragments

theorem plan_fst_lt (cfg : SenderConfig) (aSize : ℕ) : (plan cfg aSize).1 < 65536 := by
  have hle := plan_fst_le cfg aSize
  have hmtu := cfg.mtu_lt
  omega

theorem totalFragments_eq (h : Sendable cfg aData) (s : Sender) (args : SendArgs) {f : Fragment}
    (hf : f ∈ (s.planned cfg aData args).superframe aData (plan cfg aData.length).2) :
    f.ofFragmentNo + 1 = (plan cfg aData.length).2.lTotalFragments := by
  rw [Outgoing.ofFragmentNo_superframe hf, toNat_aOfFragmentNo h s args]

theorem toNat_type1PacketSize (s : Sender) (args : SendArgs) :
    (UInt16.ofNat (s.planned cfg aData args).aType1PayloadSize).toNat =
      (plan cfg aData.length).1 :=
  UInt16.toNat_ofNat_of_lt' (plan_fst_lt cfg aData.length)

theorem size_type1 (h : Sendable cfg aData) (s : Sender) (args : SendArgs) {k : ℕ}
    (hk : k < (plan cfg aData.length).2.lNumType1Fragments) :
    Fragment.size (.type1 ((s.planned cfg aData args).packet1 aData k)) =
      (plan cfg aData.length).1 := by
  have hdata : (plan cfg aData.length).2.lNumType1Fragments *
      (s.planned cfg aData args).aType1PayloadSize ≤ aData.length := by
    have hsize := h.cuts.size
    change _ * (plan cfg aData.length).1 ≤ _
    omega
  rw [Fragment.size, length_packet1 hdata hk]
  exact Nat.add_sub_cancel_left _ _

theorem type1Size_superframe (h : Sendable cfg aData) (s : Sender) (args : SendArgs) {f : Fragment}
    (hf : f ∈ (s.planned cfg aData args).superframe aData (plan cfg aData.length).2) :
    f.type1Size = (plan cfg aData.length).1 := by
  rcases Outgoing.mem_superframe.mp hf with ⟨k, hk, rfl⟩ | ⟨-, rfl⟩ | rfl
  · exact size_type1 h s args hk
  · rw [Fragment.type1Size, Outgoing.read_packet3]
    exact toNat_type1PacketSize s args
  · rw [Fragment.type1Size, Outgoing.read_packet2]
    exact toNat_type1PacketSize s args

theorem size_type2 (h : Sendable cfg aData) (s : Sender) (args : SendArgs) :
    Fragment.size (.type2 ((s.planned cfg aData args).packet2 aData (plan cfg aData.length).2)) =
      (plan cfg aData.length).2.lType2DataSize := by
  have hle := h.cuts.type2_le
  have hmtu := cfg.mtu_lt
  rw [Fragment.size, Outgoing.read_packet2]
  exact UInt16.toNat_ofNat_of_lt' (by change _ < 65536; omega)

theorem totalSize_le (h : Sendable cfg aData) (s : Sender) (args : SendArgs) {f : Fragment}
    (hf : f ∈ (s.planned cfg aData args).superframe aData (plan cfg aData.length).2) :
    f.totalSize ≤ max (estimate cfg aData.length) maxSuperframeSize := by
  have htype1 := type1Size_superframe h s args hf
  have hof := totalFragments_eq h s args hf
  cases f with
  | type1 d | type3 d =>
      rw [Fragment.totalSize, htype1, hof]
      exact le_max_left _ _
  | type2 d =>
      have hsize : Fragment.size (.type2 d) = (plan cfg aData.length).2.lType2DataSize := by
        rcases Outgoing.mem_superframe.mp hf with ⟨k, -, heq⟩ | ⟨-, heq⟩ | heq
        · cases heq
        · cases heq
        · rw [heq]
          exact size_type2 h s args
      rw [Fragment.totalSize, htype1, hsize, estimate, ← hof, Nat.mul_succ]
      by_cases hsmall : aData.length ≤ cfg.mMtu - FrameType2.sizeof
      · have hle := h.size_le
        simp only [plan, if_pos hsmall]
        omega
      · have hle := @packetize_type2_le cfg.mMtu _ aData.length
          (Nat.sub_pos_of_lt (type1FrameSize_spec cfg).1)
        simp only [plan, if_neg hsmall]
        exact (Nat.add_le_add_left hle _).trans (le_max_left _ _)

/-- A superframe above the estimate has a fragment that the receiver refuses. -/
theorem exists_refused (h : Sendable cfg aData) (s : Sender) (args : SendArgs)
    (hlarge : maxSuperframeSize < estimate cfg aData.length) :
    ∃ f ∈ (s.planned cfg aData args).superframe aData (plan cfg aData.length).2,
      ¬ Admitted f.packet := by
  have hsmall : ¬ aData.length ≤ cfg.mMtu - FrameType2.sizeof := by
    intro hsmall
    rw [estimate, plan, if_pos hsmall, Nat.zero_mul] at hlarge
    exact absurd hlarge (Nat.not_lt_zero _)
  have htotal := h.cuts.total
  have hle : (plan cfg aData.length).2.lTotalFragments ≤ 8192 := h.total_le
  have hmultiple : 0 < (plan cfg aData.length).2.lNumType1Fragments ∨
      (plan cfg aData.length).2.lNeedsType3 = true := by
    rw [plan, if_neg hsmall]
    exact packetize_multiple (not_le.mp hsmall)
  rcases hmultiple with hnum | hneeds
  · have hf : Fragment.type1 ((s.planned cfg aData args).packet1 aData 0) ∈
        (s.planned cfg aData args).superframe aData (plan cfg aData.length).2 :=
      Outgoing.mem_superframe.mpr (.inl ⟨0, hnum, rfl⟩)
    refine ⟨_, hf, not_admitted (Outgoing.ofPacket_superframe hf) ?_ (.inr ⟨?_, ?_⟩)⟩
    · rw [Fragment.packet, Outgoing.packet1, List.length_append, FrameType1.length_bytes]
      exact Nat.le_add_right _ _
    · have hof := totalFragments_eq h s args hf
      have hslot : Fragment.slot (.type1 ((s.planned cfg aData args).packet1 aData 0)) = 0 :=
        Outgoing.slot_type1 (by decide)
      rw [Fragment.check, if_neg (by omega), if_neg (by omega)]
    · rw [Fragment.oversized, totalFragments_eq h s args hf, size_type1 h s args hnum,
        decide_eq_true_eq, gt_iff_lt, Nat.div_lt_iff_lt_mul (by omega)]
      exact hlarge
  · have hf : Fragment.type3 ((s.planned cfg aData args).packet3 aData
        (plan cfg aData.length).2) ∈
        (s.planned cfg aData args).superframe aData (plan cfg aData.length).2 :=
      Outgoing.mem_superframe.mpr (.inr (.inl ⟨hneeds, rfl⟩))
    have hof := totalFragments_eq h s args hf
    have htype1 := type1Size_superframe h s args hf
    refine ⟨_, hf, not_admitted (Outgoing.ofPacket_superframe hf) ?_ (.inl ?_)⟩
    · rw [Fragment.packet, Outgoing.packet3, List.length_append, FrameType3.length_bytes]
      exact Nat.le_add_right _ _
    · have hsize : Fragment.size (.type3 ((s.planned cfg aData args).packet3 aData
          (plan cfg aData.length).2)) ≤ (plan cfg aData.length).1 := by
        have hchunk : (chunk aData ((plan cfg aData.length).2.lNumType1Fragments *
            (s.planned cfg aData args).aType1PayloadSize)
            (plan cfg aData.length).2.lType3DataSize).length ≤ (plan cfg aData.length).1 :=
          (List.length_take_le _ _).trans h.cuts.type3_le
        have h8 : FrameType3.sizeof = 8 := rfl
        rw [Fragment.size, Outgoing.packet3, List.length_append, FrameType3.length_bytes]
        omega
      rw [if_pos hneeds] at htotal
      rw [Fragment.check, if_neg (by omega), if_neg (by omega), if_pos]
      rw [Fragment.totalSize, htype1, hof]
      exact hlarge

/-- Nothing of a superframe is refused, just when the estimate is within the
limit. -/
theorem admitted_superframe_iff (h : Sendable cfg aData) (s : Sender) (args : SendArgs) :
    (∀ data ∈ ((s.planned cfg aData args).superframe aData (plan cfg aData.length).2).map
        Fragment.packet, Admitted data) ↔ estimate cfg aData.length ≤ maxSuperframeSize := by
  constructor
  · intro hadmitted
    by_contra hlarge
    obtain ⟨f, hf, hrefused⟩ := exists_refused h s args (not_le.mp hlarge)
    exact hrefused (hadmitted _ (List.mem_map_of_mem hf))
  · intro hle data hdata
    obtain ⟨f, hf, rfl⟩ := List.mem_map.mp hdata
    intro f' hf' B rcfg r now memalign aSourceId _
    rw [Outgoing.ofPacket_superframe hf, Option.some.injEq] at hf'
    subst hf'
    apply Receiver.handle_ne_tooLargeFrame
    exact (totalSize_le h s args hf).trans (max_le hle le_rfl)

/-! ### Every run -/

/-- What a `send` takes is within the limit by the receiver's estimate. -/
def WithinEstimate (cfg : SenderConfig) : SenderCall → Prop
  | .send _ aData _ => Sendable cfg aData → estimate cfg aData.length ≤ maxSuperframeSize
  | .receiveNack _ | .processRetransmits _ => True

theorem made_retransmitCalls (aMaxCount : ℕ) (queue : List RetransmitRequest) (lCount : ℕ)
    (s : Retention) : (retransmitCalls aMaxCount queue lCount s).filterMap StoreCall.made = [] := by
  induction queue generalizing lCount s with
  | nil => rfl
  | cons lRequest rest ih =>
      rw [retransmitCalls]
      split_ifs
      · exact ih _ _
      · exact ih _ _
      · rfl

theorem made_nackCalls (lEntries : List NackEntry) :
    (Retention.nackCalls lEntries).filterMap StoreCall.made = [] := by
  apply List.filterMap_eq_nil_iff.mpr
  intro call hcall
  obtain ⟨lEntry, -, hrange⟩ := List.mem_flatMap.mp hcall
  obtain ⟨lJ, -, rfl⟩ := List.mem_map.mp hrange
  rfl

theorem admitted_made_iff (s : Sender) (e : SenderCall) :
    (∀ call ∈ s.storeCalls cfg e, ∀ data ∈ call.made, Admitted data) ↔ WithinEstimate cfg e := by
  have hmade : (∀ call ∈ s.storeCalls cfg e, ∀ data ∈ call.made, Admitted data) ↔
      ∀ data ∈ (s.storeCalls cfg e).filterMap StoreCall.made, Admitted data := by
    simp only [List.mem_filterMap, forall_exists_index, and_imp, Option.mem_def]
    exact ⟨fun h data call hcall hdata => h call hcall data hdata,
      fun h call hcall data hdata => h data call hcall hdata⟩
  rw [hmade]
  cases e with
  | send clk aData args =>
      by_cases h : Sendable cfg aData
      · rw [WithinEstimate, imp_iff_right h, ← admitted_superframe_iff h (s.evicted cfg clk) args,
          ← first_send h clk s args, Retention.first_sent]
        rfl
      · have hnone := filter_sendCalls cfg clk s aData args
        rw [if_neg h] at hnone
        refine iff_of_true (fun data hdata => ?_) fun hsendable => absurd hsendable h
        obtain ⟨call, hcall, hsome⟩ := List.mem_filterMap.mp hdata
        cases call with
        | retain =>
            have hmem := List.mem_filter.mpr ⟨hcall, (rfl : StoreCall.isRetain (.retain ..) = true)⟩
            rw [storeCalls, hnone] at hmem
            exact absurd hmem List.not_mem_nil
        | evict | request | take => cases hsome
  | receiveNack aData =>
      rw [storeCalls, made_nackCalls]
      exact iff_of_true (fun data hdata => absurd hdata List.not_mem_nil) trivial
  | processRetransmits aMaxCount =>
      rw [storeCalls, made_retransmitCalls]
      exact iff_of_true (fun data hdata => absurd hdata List.not_mem_nil) trivial

/-- What is sent again has been sent before, so it is enough to look at what
is made. -/
theorem forall_frames_run_iff (P : List UInt8 → Prop) (es : List SenderCall) :
    (∀ p ∈ ((Sender.machine cfg).run (Sender.new cfg) es).2, ∀ data ∈ frames p.data, P data) ↔
      ∀ call ∈ (Sender.new cfg).trace cfg es, ∀ data ∈ call.made, P data := by
  have hframes : ((Sender.machine cfg).run (Sender.new cfg) es).2.flatMap (fun p => frames p.data) =
      (({} : Retention).sent cfg ((Sender.new cfg).trace cfg es)).map Transmission.data :=
    frames_run (holds_empty cfg) es
  have hsent : (∀ p ∈ ((Sender.machine cfg).run (Sender.new cfg) es).2,
      ∀ data ∈ frames p.data, P data) ↔
      ∀ t ∈ ({} : Retention).sent cfg ((Sender.new cfg).trace cfg es), P t.data := by
    rw [← List.forall_mem_map, ← hframes, List.forall_mem_flatMap]
  have hfirst := @Retention.first_sent cfg {} ((Sender.new cfg).trace cfg es)
  rw [hsent]
  constructor
  · intro h call hcall data hdata
    have hmem := List.mem_filterMap.mpr ⟨call, hcall, hdata⟩
    rw [← hfirst] at hmem
    obtain ⟨t, ht, hdata⟩ := List.mem_filterMap.mp hmem
    cases t with
    | fragment lKey apData =>
        cases hdata
        exact h _ ht
    | retransmit => cases hdata
  · intro h t ht
    obtain ⟨lKey, hfragment⟩ := sent_of_calls cfg _ t ht
    have hmem : t.data ∈ (({} : Retention).sent cfg
        ((Sender.new cfg).trace cfg es)).filterMap Transmission.first :=
      List.mem_filterMap.mpr ⟨_, hfragment, rfl⟩
    rw [hfirst] at hmem
    obtain ⟨call, hcall, hdata⟩ := List.mem_filterMap.mp hmem
    exact h call hcall _ hdata

theorem admitted_run_forall (cfg : SenderConfig) (es : List SenderCall) :
    (∀ p ∈ ((Sender.machine cfg).run (Sender.new cfg) es).2, ∀ data ∈ frames p.data,
        Admitted data) ↔ ∀ e ∈ es, WithinEstimate cfg e := by
  rw [forall_frames_run_iff]
  exact ((Sender.machine cfg).forall_flatten_iff _ _ _ _).trans
    ((Sender.machine cfg).along_iff_forall (fun s e => admitted_made_iff s e) _ _)

/-- No frame that a run sends is refused as too large, just when the Type1 size
times the number of fragments is within the limit for every superframe. -/
theorem admitted_run_iff (cfg : SenderConfig) (es : List SenderCall) :
    (∀ p ∈ ((Sender.machine cfg).run (Sender.new cfg) es).2, ∀ data ∈ frames p.data,
        Admitted data) ↔
      ∀ clk aData args, .send clk aData args ∈ es → Sendable cfg aData →
        (plan cfg aData.length).1 * (plan cfg aData.length).2.lTotalFragments ≤
          maxSuperframeSize := by
  rw [admitted_run_forall]
  constructor
  · exact fun h clk aData args hmem => h _ hmem
  · intro h e he
    cases e with
    | send clk aData args => exact h clk aData args he
    | receiveNack | processRetransmits => trivial

end Sender

/-! ### A superframe of the largest size -/

namespace Sample

/-- The Type1 fragments of this configuration carry 65527 bytes. -/
def largeCfg : SenderConfig := SenderConfig.new 65535 .single 0 0

end Sample

theorem not_admitted_largestRun :
    ¬ ∀ p ∈ ((Sender.machine Sample.largeCfg).run (Sender.new Sample.largeCfg)
      [Sample.sendAt 0 maxSuperframeSize]).2, ∀ data ∈ frames p.data, Admitted data := by
  rw [Sender.admitted_run_forall]
  intro h
  have hwithin := h _ (List.mem_singleton.mpr rfl)
  rw [Sample.sendAt, Sender.WithinEstimate, List.length_replicate] at hwithin
  have hsendable : Sender.Sendable Sample.largeCfg (List.replicate maxSuperframeSize 7) := by
    constructor
    · exact fun hnil => absurd (congrArg List.length hnil) (by rw [List.length_replicate]; decide)
    · rw [List.length_replicate]
    · rw [List.length_replicate]
      decide
  exact absurd (hwithin hsendable) (by decide)

end ElasticFrame
