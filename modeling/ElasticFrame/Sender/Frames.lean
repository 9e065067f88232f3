import ElasticFrame.Sender.Superframe
import ElasticFrame.Sender.Retained
import ElasticFrame.Lib.Lists

/-!
The packets of a `send`, bundles taken apart: the fragments of the new
superframe in the order of their numbers, with the fragments that are sent
again in between. Every packet is within the MTU.
-/

namespace ElasticFrame

open Lib

namespace Sender

variable {cfg : SenderConfig}

/-- What is retained travels on its own: it fits the MTU, and is not a bundle. -/
def Travels (cfg : SenderConfig) (data : List UInt8) : Prop :=
  ¬ IsBundle data ∧ data.length ≤ cfg.mMtu

theorem type1FrameSize_le (cfg : SenderConfig) : type1FrameSize cfg ≤ cfg.mMtu := by
  rw [type1FrameSize]
  split_ifs
  · exact le_rfl
  · exact (Nat.div_le_self _ _).trans (Nat.sub_le _ _)

theorem plan_fst_le (cfg : SenderConfig) (aSize : ℕ) :
    FrameType1.sizeof + (plan cfg aSize).1 ≤ cfg.mMtu := by
  have hframe := type1FrameSize_spec cfg
  have hmtu := type1FrameSize_le cfg
  rw [plan]
  split_ifs
  · exact hframe.1.le.trans hmtu
  · rw [type1PayloadSize, Nat.add_sub_cancel' hframe.1.le]
    exact hmtu

theorem not_isBundle_of_ofPacket {data : List UInt8} {f : Fragment}
    (h : Fragment.ofPacket data = some f) : ¬ IsBundle data := by
  intro hbundle
  rw [Fragment.ofPacket, hbundle] at h
  cases h

theorem length_superframe_le {aData : List UInt8} (h : Sendable cfg aData) (s : Sender)
    (args : SendArgs) {f : Fragment}
    (hf : f ∈ (s.planned cfg aData args).superframe aData (plan cfg aData.length).2) :
    f.packet.length ≤ cfg.mMtu := by
  have hcuts := h.cuts
  have hsize := hcuts.size
  have hfst := plan_fst_le cfg aData.length
  have h8 : FrameType1.sizeof = 8 := rfl
  have h27 : FrameType2.sizeof = 27 := rfl
  rcases Outgoing.mem_superframe.mp hf with ⟨k, -, rfl⟩ | ⟨-, rfl⟩ | rfl
  · have hchunk : (chunk aData (k * (plan cfg aData.length).1) (plan cfg aData.length).1).length ≤
        (plan cfg aData.length).1 := List.length_take_le _ _
    change ((_ : List UInt8) ++ chunk aData (k * (plan cfg aData.length).1)
      (plan cfg aData.length).1).length ≤ _
    rw [List.length_append, FrameType1.length_bytes]
    omega
  · have hle := hcuts.type3_le
    change ((_ : List UInt8) ++ chunk aData _ (plan cfg aData.length).2.lType3DataSize).length ≤ _
    rw [List.length_append, FrameType3.length_bytes, chunk, List.length_take]
    omega
  · have hle := hcuts.type2_le
    change ((_ : List UInt8) ++ chunk aData _ (plan cfg aData.length).2.lType2DataSize).length ≤ _
    rw [List.length_append, FrameType2.length_bytes, chunk, List.length_take]
    omega

theorem travels_superframe {aData : List UInt8} (h : Sendable cfg aData) (s : Sender)
    (args : SendArgs) {data : List UInt8}
    (hdata : data ∈ (s.planned cfg aData args).fragments aData (plan cfg aData.length).2) :
    Travels cfg data := by
  rw [← Outgoing.map_packet_superframe] at hdata
  obtain ⟨f, hf, rfl⟩ := List.mem_map.mp hdata
  exact ⟨not_isBundle_of_ofPacket (Outgoing.ofPacket_superframe hf), length_superframe_le h s args hf⟩

/-- All that is retained travels. -/
structure Holds (cfg : SenderConfig) (s : Retention) : Prop where
  represented : s.Represented
  travels : ∀ e ∈ s.retained, Travels cfg e.2.mData

theorem holds_empty (cfg : SenderConfig) : Holds cfg {} where
  represented := Retention.represented_empty
  travels _ he := absurd he List.not_mem_nil

theorem Holds.after {s : Retention} (hs : Holds cfg s) {calls : List StoreCall}
    (hcalls : ∀ call ∈ calls, call.Makes fun _ => Travels cfg) : Holds cfg (s.after cfg calls) where
  represented := hs.represented.after cfg calls
  travels := hs.represented.all_after hs.travels hcalls

theorem Holds.sent {s : Retention} (hs : Holds cfg s) {calls : List StoreCall}
    (hcalls : ∀ call ∈ calls, call.Makes fun _ => Travels cfg) :
    ∀ t ∈ s.sent cfg calls, Travels cfg t.data := by
  intro t ht
  obtain ⟨-, htravels⟩ := hs.represented.all_sent hs.travels hcalls t ht
  exact htravels

/-! ### Bundles -/

theorem flatMap_frames {packets : List Packet} (h : ∀ p ∈ packets, ¬ IsBundle p.data) :
    packets.flatMap (fun p => frames p.data) = packets.map Packet.data := by
  induction packets with
  | nil => rfl
  | cons p packets ih =>
      rw [List.flatMap_cons, frames_of_not (h p List.mem_cons_self), List.map_cons,
        ih fun p hp => h p (List.mem_cons_of_mem _ hp)]
      rfl

theorem sent_type1Calls (clk : SendClock) (o : Outgoing) (apData : List UInt8)
    (count lFragNo : ℕ) (s : Retention) :
    (s.sent cfg (type1Calls clk o apData count lFragNo)).map Transmission.data =
      (List.range' lFragNo count).map (o.packet1 apData) := by
  induction count generalizing lFragNo s with
  | zero => rfl
  | succ count ih =>
      rw [type1Calls, List.range'_succ, List.map_cons, Retention.sent_cons, List.map_append,
        List.map_cons]
      exact congrArg (o.packet1 apData lFragNo :: ·) (ih (lFragNo + 1) _)

theorem sent_tailCalls (clk : SendClock) (o : Outgoing) (apData : List UInt8) (p : Packetization)
    (s : Retention) :
    (s.sent cfg (tailCalls clk o apData p)).map Transmission.data = o.tail apData p := by
  rw [tailCalls, Outgoing.tail]
  split_ifs <;> rfl

theorem sent_takeCalls (s : Sender) (room : ℕ) :
    (s.retention.sent cfg (s.takeCalls room)).map Transmission.data =
      (s.takeRetransmit room).2.toList.map Packet.data := by
  rw [takeCalls, takeRetransmit]
  split_ifs
  · rw [s.getRetransmitFragment_eq.2, Retention.sent_cons, List.map_append]
    simp only [Retention.machine, List.map_map, Retention.sent_nil, List.map_nil, List.append_nil]
    cases s.retention.take.2 with
    | none => rfl
    | some served => rfl
  · rfl

/-- A retransmit either goes into the bundle or is sent before it. -/
theorem alone_bundled (o : Outgoing) (room : ℕ) (s : Sender) :
    (s.aloneRetransmit o room).toList ++ (s.bundledRetransmit o room).toList =
      (s.takeRetransmit room).2.toList := by
  rw [aloneRetransmit, bundledRetransmit]
  cases (s.takeRetransmit room).2 with
  | none => rfl
  | some lRetransmit =>
      rw [Option.filter_some, Option.filter_some]
      by_cases hsize : lRetransmit.data.length = o.lType1FrameSize
      · simp [hsize]
      · simp [hsize]

theorem makes_type1Calls {P : UInt32 → List UInt8 → Prop} {clk : SendClock} {o : Outgoing}
    {apData : List UInt8} {count lFragNo : ℕ}
    (h : ∀ k, lFragNo ≤ k → k < lFragNo + count →
      P (makeRetentionKey o.aSuperFrameNo (UInt16.ofNat k)) (o.packet1 apData k)) :
    ∀ call ∈ type1Calls clk o apData count lFragNo, call.Makes P := by
  intro call hcall
  obtain ⟨k, hk, rfl⟩ := List.mem_map.mp hcall
  obtain ⟨hle, hlt⟩ := List.mem_range'_1.mp hk
  exact h k hle hlt

theorem take_notMem_type1Calls {o : Outgoing} {apData : List UInt8} (clk : SendClock)
    (count lFragNo : ℕ) : .take ∉ type1Calls clk o apData count lFragNo := by
  intro hmem
  obtain ⟨k, -, heq⟩ := List.mem_map.mp hmem
  cases heq

theorem makes_takeCalls {P : UInt32 → List UInt8 → Prop} (s : Sender) (room : ℕ) :
    ∀ call ∈ s.takeCalls room, call.Makes P := by
  intro call hcall
  rw [takeCalls] at hcall
  split_ifs at hcall
  · rw [List.mem_singleton.mp hcall]
    trivial
  · exact absurd hcall List.not_mem_nil

theorem travels_takeRetransmit {s : Sender} (hs : Holds cfg s.retention) {room : ℕ}
    {lRetransmit : Packet} (h : lRetransmit ∈ (s.takeRetransmit room).2) :
    Travels cfg lRetransmit.data := by
  have hmem : lRetransmit.data ∈ (s.retention.sent cfg (s.takeCalls room)).map
      Transmission.data := by
    rw [sent_takeCalls]
    exact List.mem_map_of_mem (Option.mem_toList.mpr h)
  obtain ⟨t, ht, heq⟩ := List.mem_map.mp hmem
  rw [← heq]
  exact hs.sent (makes_takeCalls s room) t ht

/-- The frames that an iteration of the bundle loop puts into its bundle. -/
def bundleMembers (cfg : SenderConfig) (o : Outgoing) (apData : List UInt8) (n lFragIdx : ℕ)
    (s : Sender) (lFragsInBundle : ℕ) : List (List UInt8) :=
  (s.bundledRetransmit o (bundleRoom cfg n lFragIdx)).toList.map Packet.data ++
    (List.range' lFragIdx lFragsInBundle).map (o.packet1 apData)

variable {o : Outgoing} {apData : List UInt8} {n lFragIdx : ℕ} {s : Sender} {sent : Bundled}
  {clk : SendClock}

/-- There are as many as there is room for, all of the size of a Type1. -/
theorem bundleMembers_spec (hdata : n * o.aType1PayloadSize ≤ apData.length)
    (hsent : Iterated cfg clk o apData n lFragIdx s sent) :
    (bundleMembers cfg o apData n lFragIdx s sent.lFragsInBundle).length =
        bundleRoom cfg n lFragIdx ∧
      ∀ m ∈ bundleMembers cfg o apData n lFragIdx s sent.lFragsInBundle,
        m.length = o.lType1FrameSize := by
  constructor
  · rw [bundleMembers, List.length_append, List.length_map, List.length_map, List.length_range']
    exact hsent.room
  · intro m hm
    rcases List.mem_append.mp hm with hm | hm
    · obtain ⟨lRetransmit, hmem, rfl⟩ := List.mem_map.mp hm
      have hfilter := Option.mem_toList.mp hmem
      rw [bundledRetransmit, Option.filter_eq_some_iff] at hfilter
      exact of_decide_eq_true hfilter.2
    · obtain ⟨k, hk, rfl⟩ := List.mem_map.mp hm
      have hlt := List.mem_range'_1.mp hk
      have hwithin := hsent.within
      exact length_packet1 hdata (by omega)

theorem bundleRoom_le (cfg : SenderConfig) (n lFragIdx : ℕ) : bundleRoom cfg n lFragIdx ≤ 8 := by
  have height : cfg.mSubFragmentMode.bundleSize ≤ 8 := by
    cases cfg.mSubFragmentMode <;> decide
  exact (min_le_left _ _).trans height

/-- A bundle has room for at least one fragment, and fits the MTU when it is
full. -/
theorem bundleRoom_spec (hmode : cfg.mSubFragmentMode ≠ .single)
    (hframe : o.lType1FrameSize = type1FrameSize cfg) (h : lFragIdx < n) :
    0 < bundleRoom cfg n lFragIdx ∧ bundleRoom cfg n lFragIdx ≤ 8 ∧
      FrameType4.sizeof + bundleRoom cfg n lFragIdx * o.lType1FrameSize ≤ cfg.mMtu := by
  have hpos := SubFragmentMode.bundleSize_pos cfg.mSubFragmentMode
  have hfull := (type1FrameSize_spec cfg).2.2 hmode
  have hroom : bundleRoom cfg n lFragIdx ≤ cfg.mSubFragmentMode.bundleSize := min_le_left _ _
  refine ⟨lt_min hpos (Nat.sub_pos_of_lt h), bundleRoom_le cfg n lFragIdx, ?_⟩
  rw [hframe]
  exact (Nat.add_le_add_left (Nat.mul_le_mul_right _ hroom) _).trans hfull

theorem frames_iteration (hs : Holds cfg s.retention) (hmode : cfg.mSubFragmentMode ≠ .single)
    (hframe : o.lType1FrameSize = type1FrameSize cfg)
    (hdata : n * o.aType1PayloadSize ≤ apData.length) (h : lFragIdx < n)
    (hsent : Iterated cfg clk o apData n lFragIdx s sent) :
    sent.packets.flatMap (fun p => frames p.data) =
        (s.takeRetransmit (bundleRoom cfg n lFragIdx)).2.toList.map Packet.data ++
          (List.range' lFragIdx sent.lFragsInBundle).map (o.packet1 apData) ∧
      ∀ p ∈ sent.packets, p.data.length ≤ cfg.mMtu := by
  obtain ⟨hcount, hlength⟩ := bundleMembers_spec hdata hsent
  obtain ⟨hpos, height, hfits⟩ := bundleRoom_spec hmode hframe h
  have halone : ∀ lRetransmit ∈ (s.aloneRetransmit o (bundleRoom cfg n lFragIdx)).toList,
      Travels cfg lRetransmit.data := by
    intro lRetransmit hmem
    have hfilter := Option.mem_toList.mp hmem
    rw [aloneRetransmit, Option.filter_eq_some_iff] at hfilter
    exact travels_takeRetransmit hs hfilter.1
  have hbundle : frames (bundle o
      (bundleMembers cfg o apData n lFragIdx s sent.lFragsInBundle)).data = _ :=
    frames_bundle o (by omega) (by omega) hlength
  rw [hsent.packets]
  constructor
  · rw [← alone_bundled o, List.flatMap_append, List.flatMap_singleton,
      flatMap_frames fun p hp => (halone p hp).1, List.map_append, List.append_assoc]
    exact congrArg (_ ++ ·) hbundle
  · intro p hp
    rcases List.mem_append.mp hp with hp | hp
    · exact (halone p hp).2
    · rw [List.mem_singleton.mp hp]
      change (_ ++ (bundleMembers cfg o apData n lFragIdx s sent.lFragsInBundle).flatten).length ≤ _
      rw [List.length_append, FrameType4.length_bytes, length_flatten_of_forall hlength, hcount]
      exact hfits

theorem Holds.iterated (hs : Holds cfg s.retention)
    (htravels : ∀ k < n, Travels cfg (o.packet1 apData k))
    (hsent : Iterated cfg clk o apData n lFragIdx s sent) :
    Holds cfg sent.sender.retention ∧
      sent.sender.retention = s.retention.after cfg (s.takeCalls (bundleRoom cfg n lFragIdx) ++
        type1Calls clk o apData sent.lFragsInBundle lFragIdx) := by
  have hwithin := hsent.within
  have hafter : sent.sender.retention =
      s.retention.after cfg (s.takeCalls (bundleRoom cfg n lFragIdx) ++
        type1Calls clk o apData sent.lFragsInBundle lFragIdx) := by
    rw [hsent.retention, Retention.after_append, takeRetransmit_retention]
  refine ⟨?_, hafter⟩
  rw [hafter]
  apply hs.after
  intro call hcall
  rcases List.mem_append.mp hcall with hcall | hcall
  · exact makes_takeCalls s _ call hcall
  · exact makes_type1Calls (fun k _ hk => htravels k (by omega)) call hcall

theorem frames_bundleLoop (clk : SendClock) (hmode : cfg.mSubFragmentMode ≠ .single)
    (hframe : 0 < n → o.lType1FrameSize = type1FrameSize cfg)
    (hdata : n * o.aType1PayloadSize ≤ apData.length)
    (htravels : ∀ k < n, Travels cfg (o.packet1 apData k)) (lFragIdx : ℕ) (s : Sender)
    (hs : Holds cfg s.retention) :
    (bundleLoop cfg clk o apData n lFragIdx (lFragIdx * o.aType1PayloadSize) s).2.flatMap
          (fun p => frames p.data) =
        (s.retention.sent cfg (bundleCalls cfg clk o apData n lFragIdx s)).map
          Transmission.data ∧
      ∀ p ∈ (bundleLoop cfg clk o apData n lFragIdx (lFragIdx * o.aType1PayloadSize) s).2,
        p.data.length ≤ cfg.mMtu := by
  induction lFragIdx, s using bundleCalls.induct cfg clk o apData n with
  | case1 lFragIdx s h sent ih =>
      have hsent := bundleIteration_spec cfg clk hdata h s
      change Iterated cfg clk o apData n lFragIdx s sent at hsent
      obtain ⟨hnext, hafter⟩ := hs.iterated htravels hsent
      obtain ⟨hrest, hrestFits⟩ := ih hnext
      obtain ⟨hframes, hfits⟩ := frames_iteration hs hmode (hframe (by omega)) hdata h hsent
      rw [bundleLoop, bundleCalls, dif_pos h, dif_pos h]
      dsimp only
      rw [← Nat.add_mul]
      constructor
      · rw [List.flatMap_append, ← List.append_assoc, Retention.sent_append, List.map_append,
          Retention.sent_append, List.map_append, ← hafter, sent_takeCalls, sent_type1Calls]
        exact congrArg₂ (· ++ ·) hframes hrest
      · intro p hp
        rcases List.mem_append.mp hp with hp | hp
        · exact hfits p hp
        · exact hrestFits p hp
  | case2 lFragIdx s h =>
      rw [bundleLoop, bundleCalls, dif_neg h, dif_neg h]
      exact ⟨rfl, fun p hp => absurd hp List.not_mem_nil⟩

/-! ### `send` -/

theorem frames_sendPlanned (clk : SendClock) {s : Sender} (hs : Holds cfg s.retention)
    {aData : List UInt8} (h : Sendable cfg aData) (args : SendArgs) :
    (sendPlanned cfg clk s aData args).2.flatMap (fun p => frames p.data) =
        (s.retention.sent cfg (superframeCalls cfg clk (s.planned cfg aData args) aData
          (plan cfg aData.length).2 s.numbered)).map Transmission.data ∧
      ∀ p ∈ (sendPlanned cfg clk s aData args).2, p.data.length ≤ cfg.mMtu := by
  have hcuts := h.cuts
  have hdata : (plan cfg aData.length).2.lNumType1Fragments *
      (s.planned cfg aData args).aType1PayloadSize ≤ aData.length := by
    have hsize := hcuts.size
    change _ * (plan cfg aData.length).1 ≤ _
    omega
  have htype1 : ∀ k < (plan cfg aData.length).2.lNumType1Fragments,
      Travels cfg ((s.planned cfg aData args).packet1 aData k) := by
    intro k hk
    apply travels_superframe h s args
    exact List.mem_append_left _ (List.mem_map_of_mem (List.mem_range.mpr hk))
  have htail : ∀ p ∈ ((s.planned cfg aData args).tail aData (plan cfg aData.length).2).map
      (fun data => ({ data, streamId := args.aStreamId } : Packet)), Travels cfg p.data := by
    intro p hp
    obtain ⟨data, hmem, rfl⟩ := List.mem_map.mp hp
    exact travels_superframe h s args (List.mem_append_right _ hmem)
  have htailFrames := flatMap_frames fun p hp => (htail p hp).1
  rw [List.map_map] at htailFrames
  rw [(sendPlanned_spec clk s h args).2, superframeCalls]
  split_ifs with hsingle
  · have hloop : ∀ p ∈ (List.range (plan cfg aData.length).2.lNumType1Fragments).map (fun k =>
        ({ data := (s.planned cfg aData args).packet1 aData k,
           streamId := args.aStreamId } : Packet)), Travels cfg p.data := by
      intro p hp
      obtain ⟨k, hk, rfl⟩ := List.mem_map.mp hp
      exact htype1 k (List.mem_range.mp hk)
    have hloopFrames := flatMap_frames fun p hp => (hloop p hp).1
    rw [List.map_map] at hloopFrames
    constructor
    · rw [List.flatMap_append, hloopFrames, htailFrames, Retention.sent_append, List.map_append,
        sent_type1Calls, sent_tailCalls, List.range_eq_range']
      exact congrArg (_ ++ ·) (List.map_id _)
    · intro p hp
      rcases List.mem_append.mp hp with hp | hp
      · exact (hloop p hp).2
      · exact (htail p hp).2
  · have hframe : 0 < (plan cfg aData.length).2.lNumType1Fragments →
        (s.planned cfg aData args).lType1FrameSize = type1FrameSize cfg := plan_fst
    obtain ⟨hframes, hfits⟩ :=
      frames_bundleLoop clk hsingle hframe hdata htype1 0 s.numbered hs
    rw [Nat.zero_mul] at hframes hfits
    constructor
    · rw [List.flatMap_append, hframes, htailFrames, Retention.sent_append, List.map_append,
        sent_tailCalls]
      exact congrArg (_ ++ ·) (List.map_id _)
    · intro p hp
      rcases List.mem_append.mp hp with hp | hp
      · exact hfits p hp
      · exact (htail p hp).2

theorem makes_storeCalls (cfg : SenderConfig) (s : Sender) (e : SenderCall) :
    ∀ call ∈ s.storeCalls cfg e, call.Makes fun _ => Travels cfg := by
  have htrace : ∀ call ∈ s.trace cfg [e], call.Makes fun _ => Travels cfg :=
    forall_trace (fun s aData args h k data hk =>
      travels_superframe h s args (List.mem_of_getElem? hk)) s [e]
  rw [trace, Machine.flatten, Machine.flatten, List.append_nil] at htrace
  exact htrace

theorem made_fragmentCalls (clk : SendClock) (o : Outgoing) (fragments : List (List UInt8)) :
    (fragmentCalls clk o fragments).filterMap StoreCall.made = fragments := by
  apply filterMap_mapIdx
  intro k data
  rfl

theorem first_send {aData : List UInt8} (h : Sendable cfg aData) (clk : SendClock) (s : Sender)
    (args : SendArgs) :
    (s.retention.sent cfg (s.sendCalls cfg clk aData args)).filterMap Transmission.first =
      (((s.evicted cfg clk).planned cfg aData args).superframe aData
        (plan cfg aData.length).2).map Fragment.packet := by
  have hmade : StoreCall.made = fun call => if call.isRetain then call.made else none := by
    ext1 call
    cases call <;> rfl
  rw [Retention.first_sent, hmade, ← List.filterMap_filter, filter_sendCalls, if_pos h,
    made_fragmentCalls, Outgoing.map_packet_superframe]

end Sender

end ElasticFrame
