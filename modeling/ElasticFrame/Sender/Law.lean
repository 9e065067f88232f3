import ElasticFrame.Sender.Buffers

/-!
The packetization law: what a `send` puts on the wire in any state that a run
leads to, and what it leaves alone when it refuses the data.
-/

namespace ElasticFrame

open Lib

namespace Sender

variable {cfg : SenderConfig}

/-! ### The number of the superframe -/

def Succeeds (cfg : SenderConfig) (s : Sender) : SenderCall → Prop
  | .send clk aData args => (s.send cfg clk aData args).2 = .ok
  | .receiveNack _ | .processRetransmits _ => False

instance (cfg : SenderConfig) (s : Sender) : (e : SenderCall) → Decidable (s.Succeeds cfg e)
  | .send _ _ _ => inferInstanceAs (Decidable (_ = _))
  | .receiveNack _ | .processRetransmits _ => isFalse id

def successes (cfg : SenderConfig) (s : Sender) (es : List SenderCall) : List SenderCall :=
  (Sender.machine cfg).flatten (fun s e => if s.Succeeds cfg e then [e] else []) s es

theorem mSuperFrameNo_retransmitLoop (aMaxCount : ℕ) (queue : List RetransmitRequest)
    (lCount : ℕ) (s : Sender) :
    (retransmitLoop aMaxCount queue lCount s).1.mSuperFrameNo = s.mSuperFrameNo := by
  induction queue generalizing lCount s with
  | nil => rfl
  | cons lRequest rest ih =>
      rw [retransmitLoop]
      split_ifs
      · dsimp only
        cases (s.retention.pop lRequest rest).live lRequest.mKey lRequest.mGeneration with
        | none => exact ih lCount { s with retention := s.retention.pop lRequest rest }
        | some f =>
            exact ih (lCount + 1) { s with
              retention := (s.retention.pop lRequest rest).retry lRequest f }.countRetransmit
      · rfl

theorem send_ok_iff (cfg : SenderConfig) (clk : SendClock) (s : Sender) (aData : List UInt8)
    (args : SendArgs) : (s.send cfg clk aData args).2 = .ok ↔ Sendable cfg aData := by
  rcases send_cases cfg clk s aData args with ⟨h, hsend⟩ | ⟨h, res, hres, hsend⟩
  · rw [hsend]
    exact iff_of_true rfl h
  · rw [hsend]
    exact iff_of_false hres h

theorem mSuperFrameNo_step (cfg : SenderConfig) (s : Sender) (e : SenderCall) :
    ((Sender.machine cfg).step s e).1.mSuperFrameNo =
      s.mSuperFrameNo + if s.Succeeds cfg e then 1 else 0 := by
  cases e with
  | send clk aData args =>
      simp only [Sender.machine, Succeeds, send_ok_iff]
      rcases send_cases cfg clk s aData args with ⟨h, hsend⟩ | ⟨h, res, -, hsend⟩
      · rw [hsend, if_pos h, mSuperFrameNo_sendPlanned, mSuperFrameNo_evicted]
      · rw [hsend, if_neg h, UInt16.add_zero]
        dsimp only
        split_ifs
        · rfl
        · exact mSuperFrameNo_evicted clk s
  | receiveNack aData =>
      refine Eq.trans ?_ (UInt16.add_zero _).symm
      simp only [Sender.machine, receiveNack]
      split_ifs <;> rfl
  | processRetransmits aMaxCount =>
      exact (mSuperFrameNo_retransmitLoop aMaxCount _ 0 s).trans (UInt16.add_zero _).symm

/-- The number of a superframe counts the successful sends before it. -/
theorem mSuperFrameNo_run (cfg : SenderConfig) (s : Sender) (es : List SenderCall) :
    ((Sender.machine cfg).run s es).1.mSuperFrameNo =
      s.mSuperFrameNo + UInt16.ofNat (s.successes cfg es).length := by
  induction es generalizing s with
  | nil => exact (UInt16.add_zero _).symm
  | cons e es ih =>
      rw [Machine.run_cons, successes, Machine.flatten, List.length_append, UInt16.ofNat_add,
        ← UInt16.add_assoc]
      refine (ih _).trans (congrArg (· + _) ?_)
      rw [mSuperFrameNo_step]
      split_ifs <;> rfl

/-! ### What is sent -/

/-- The packets `packets` of a `send`, taken apart, are what is sent with its
calls: the fragments of the superframe, each once, and copies of fragments that
have been sent. -/
structure Obeys (s : Sender) (aData : List UInt8) (packets : List Packet)
    (before sent : List Transmission) : Prop where
  frames : packets.flatMap (fun p => frames p.data) = sent.map Transmission.data
  superframe : ∃ fragments, Packetized s.mSuperFrameNo aData fragments ∧
    (∀ f ∈ fragments, Fragment.ofPacket f.packet = some f) ∧
    sent.filterMap Transmission.first = fragments.map Fragment.packet
  copies : ∀ lRequest f, .retransmit lRequest f ∈ sent →
    ∃ lKey, .fragment lKey f.mData ∈ before ++ sent

theorem makes_of_sent (s : Retention) (calls : List StoreCall) :
    ∀ call ∈ calls, call.Makes fun lKey apData => .fragment lKey apData ∈ s.sent cfg calls := by
  induction calls generalizing s with
  | nil => exact fun call hcall => absurd hcall List.not_mem_nil
  | cons call calls ih =>
      intro c hc
      rcases List.mem_cons.mp hc with rfl | hc
      · cases c with
        | retain => exact List.mem_append_left _ (List.mem_singleton.mpr rfl)
        | evict | request | take => trivial
      · have hrest := ih ((Retention.machine cfg).step s call).1 c hc
        cases c with
        | retain => exact List.mem_append_right _ hrest
        | evict | request | take => trivial

/-- All that is sent in a run is a fragment that was sent for the first time. -/
theorem sent_of_calls (cfg : SenderConfig) (calls : List StoreCall) :
    ∀ t ∈ ({} : Retention).sent cfg calls,
      ∃ lKey, .fragment lKey t.data ∈ ({} : Retention).sent cfg calls :=
  Retention.represented_empty.all_sent (fun _ he => absurd he List.not_mem_nil)
    (makes_of_sent {} calls)

theorem holds_of_run (cfg : SenderConfig) (es : List SenderCall) :
    Holds cfg ((Sender.machine cfg).run (Sender.new cfg) es).1.retention := by
  rw [run_retention]
  apply (holds_empty cfg).after
  exact forall_trace (fun s aData args h k data hk =>
    travels_superframe h s args (List.mem_of_getElem? hk)) _ es

theorem Holds.evicted {s : Sender} (hs : Holds cfg s.retention) (clk : SendClock) :
    Holds cfg (s.evicted cfg clk).retention := by
  rw [evicted_retention]
  apply hs.after
  intro call hcall
  split_ifs at hcall
  · rw [List.mem_singleton.mp hcall]
    trivial
  · exact absurd hcall List.not_mem_nil

/-- Without bundles the packets of a superframe are its fragments. -/
theorem packets_sendPlanned (hsingle : cfg.mSubFragmentMode = .single) (clk : SendClock)
    (s : Sender) {aData : List UInt8} (h : Sendable cfg aData) (args : SendArgs) :
    (sendPlanned cfg clk s aData args).2 =
      ((s.planned cfg aData args).superframe aData (plan cfg aData.length).2).map fun f =>
        { data := f.packet, streamId := args.aStreamId } := by
  have hpackets := (sendPlanned_spec clk s h args).2
  rw [if_pos hsingle] at hpackets
  have hmap := congrArg (List.map fun data => ({ data, streamId := args.aStreamId } : Packet))
    (Outgoing.map_packet_superframe (s.planned cfg aData args) aData (plan cfg aData.length).2)
  rw [List.map_map, Outgoing.fragments, List.map_append, List.map_map] at hmap
  exact hpackets.trans hmap.symm

theorem travels_processRetransmits {s : Sender} (hs : Holds cfg s.retention) (aMaxCount : ℕ) :
    ∀ p ∈ (s.processRetransmits aMaxCount).2, Travels cfg p.data := by
  intro p hp
  have hdata : (s.processRetransmits aMaxCount).2.map Packet.data = _ :=
    (retransmitLoop_spec cfg aMaxCount _ 0 s rfl).2
  have hmem := List.mem_map_of_mem (f := Packet.data) hp
  rw [hdata] at hmem
  obtain ⟨t, ht, heq⟩ := List.mem_map.mp hmem
  rw [← heq]
  exact hs.sent (makes_storeCalls cfg s (.processRetransmits aMaxCount)) t ht

theorem sent_eviction (s : Retention) (clk : SendClock) :
    s.sent cfg (if cfg.mRetentionMs > 0 then [.evict clk.evict] else []) = [] := by
  split_ifs <;> rfl

theorem sent_nackCalls (lEntries : List NackEntry) (s : Retention) :
    s.sent cfg (Retention.nackCalls lEntries) = [] := by
  have hrequests : ∀ call ∈ Retention.nackCalls lEntries, ∃ lKey mStreamId,
      call = .request lKey mStreamId := by
    intro call hcall
    obtain ⟨lEntry, -, hrange⟩ := List.mem_flatMap.mp hcall
    obtain ⟨lJ, -, rfl⟩ := List.mem_map.mp hrange
    exact ⟨_, _, rfl⟩
  generalize Retention.nackCalls lEntries = calls at hrequests
  induction calls generalizing s with
  | nil => rfl
  | cons call calls ih =>
      obtain ⟨lKey, mStreamId, rfl⟩ := hrequests call List.mem_cons_self
      exact ih _ fun call hcall => hrequests call (List.mem_cons_of_mem _ hcall)

/-- The packets of an event, taken apart, are what is sent with its calls. -/
theorem frames_step {s : Sender} (hs : Holds cfg s.retention) (e : SenderCall) :
    ((Sender.machine cfg).step s e).2.flatMap (fun p => frames p.data) =
      (s.retention.sent cfg (s.storeCalls cfg e)).map Transmission.data := by
  cases e with
  | send clk aData args =>
      simp only [Sender.machine, storeCalls, sendCalls]
      rcases send_cases cfg clk s aData args with ⟨h, hsend⟩ | ⟨h, res, -, hsend⟩
      · rw [hsend, (frames_sendPlanned clk (hs.evicted clk) h args).1,
          if_neg (not_or.mpr ⟨h.ne_nil, not_lt.mpr h.size_le⟩), if_pos h, Retention.sent_append,
          sent_eviction, List.nil_append, ← evicted_retention]
      · rw [hsend, if_neg h, List.append_nil]
        split_ifs <;> rfl
  | receiveNack aData =>
      simp only [Sender.machine, storeCalls, sent_nackCalls]
      rfl
  | processRetransmits aMaxCount =>
      have hframes :=
        flatMap_frames fun p hp => (travels_processRetransmits hs aMaxCount p hp).1
      exact hframes.trans (retransmitLoop_spec cfg aMaxCount _ 0 s rfl).2

/-- The packets of a run, taken apart, are what is sent with its calls. -/
theorem frames_run {s : Sender} (hs : Holds cfg s.retention) (es : List SenderCall) :
    ((Sender.machine cfg).run s es).2.flatMap (fun p => frames p.data) =
      (s.retention.sent cfg (s.trace cfg es)).map Transmission.data := by
  induction es generalizing s with
  | nil => rfl
  | cons e es ih =>
      have hnext : Holds cfg ((Sender.machine cfg).step s e).1.retention := by
        rw [step_retention]
        exact hs.after (makes_storeCalls cfg s e)
      have htrace : s.trace cfg (e :: es) = s.storeCalls cfg e ++
          ((Sender.machine cfg).step s e).1.trace cfg es := rfl
      rw [Machine.run_cons, List.flatMap_append, frames_step hs, ih hnext, htrace,
        Retention.sent_append, List.map_append, ← step_retention]

theorem obeys_send {s : Sender} (hs : Holds cfg s.retention) (clk : SendClock)
    {aData : List UInt8} (h : Sendable cfg aData) (args : SendArgs) {calls : List StoreCall}
    (hcalls : s.retention = ({} : Retention).after cfg calls) :
    Obeys s aData (s.send cfg clk aData args).1.2 (({} : Retention).sent cfg calls)
      (s.retention.sent cfg (s.sendCalls cfg clk aData args)) := by
  refine ⟨?_, ⟨_, ?_, fun f hf => Outgoing.ofPacket_superframe hf, first_send h clk s args⟩, ?_⟩
  · exact frames_step hs (.send clk aData args)
  · rw [← mSuperFrameNo_evicted clk s]
    exact packetized_planned h _ args
  · intro lRequest f hmem
    have hcopy := sent_of_calls cfg (calls ++ s.sendCalls cfg clk aData args)
      (.retransmit lRequest f)
    rw [Retention.sent_append, ← hcalls] at hcopy
    exact hcopy (List.mem_append_right _ hmem)

theorem length_step_le {s : Sender} (hs : Holds cfg s.retention) (e : SenderCall) :
    ∀ p ∈ ((Sender.machine cfg).step s e).2, p.data.length ≤ cfg.mMtu := by
  cases e with
  | send clk aData args =>
      simp only [Sender.machine]
      rcases send_cases cfg clk s aData args with ⟨h, hsend⟩ | ⟨-, res, -, hsend⟩
      · rw [hsend]
        exact (frames_sendPlanned clk (hs.evicted clk) h args).2
      · rw [hsend]
        exact fun p hp => absurd hp List.not_mem_nil
  | receiveNack aData => exact fun p hp => absurd hp List.not_mem_nil
  | processRetransmits aMaxCount =>
      exact fun p hp => (travels_processRetransmits hs aMaxCount p hp).2

/-- The law. In every run, every packet is within the MTU, the buffers hold
what is written into them, and the number of the next superframe counts the
successful sends. A `send` then either succeeds and obeys the law, or sends
nothing and uses up no number. -/
theorem law_of_run (cfg : SenderConfig) (es : List SenderCall) :
    let s := ((Sender.machine cfg).run (Sender.new cfg) es).1
    (∀ p ∈ ((Sender.machine cfg).run (Sender.new cfg) es).2, p.data.length ≤ cfg.mMtu) ∧
      Buffered cfg s ∧
      s.mSuperFrameNo = UInt16.ofNat ((Sender.new cfg).successes cfg es).length ∧
      ∀ clk aData args,
        ((s.send cfg clk aData args).2 = .ok →
          Obeys s aData (s.send cfg clk aData args).1.2
            (({} : Retention).sent cfg ((Sender.new cfg).trace cfg es))
            (s.retention.sent cfg (s.sendCalls cfg clk aData args))) ∧
        ((s.send cfg clk aData args).2 ≠ .ok →
          (s.send cfg clk aData args).1.2 = [] ∧
            (s.send cfg clk aData args).1.1.mSuperFrameNo = s.mSuperFrameNo) := by
  have hholds := holds_of_run cfg es
  refine ⟨?_, ?_, ?_, fun clk aData args => ⟨fun hok => ?_, fun herror => ?_⟩⟩
  · -- an invariant on the retained fragments, and one step at a time for the packets
    apply (Sender.machine cfg).run_output (I := fun s => Holds cfg s.retention)
      (C := fun _ _ => True) (P := fun p => p.data.length ≤ cfg.mMtu)
    · intro s e hs _
      rw [step_retention]
      exact hs.after (makes_storeCalls cfg s e)
    · exact fun s e hs _ => length_step_le hs e
    · exact holds_empty cfg
    · exact (Sender.machine cfg).along_of_forall (fun _ _ _ => trivial) _
  · apply (Sender.machine cfg).run_invariant (C := fun _ _ => True) (fun s e hs _ => hs.step e)
      (buffered_new cfg)
    exact (Sender.machine cfg).along_of_forall (fun _ _ _ => trivial) _
  · rw [mSuperFrameNo_run]
    exact UInt16.zero_add _
  · exact obeys_send hholds clk ((send_ok_iff cfg clk _ aData args).mp hok) args
      (run_retention cfg _ es)
  · rcases send_cases cfg clk ((Sender.machine cfg).run (Sender.new cfg) es).1 aData args with
      ⟨-, hsend⟩ | ⟨-, res, -, hsend⟩
    · rw [hsend] at herror
      exact absurd rfl herror
    · rw [hsend]
      refine ⟨rfl, ?_⟩
      dsimp only
      split_ifs
      · rfl
      · exact mSuperFrameNo_evicted clk _

end Sender

end ElasticFrame
