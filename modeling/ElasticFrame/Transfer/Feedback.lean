import ElasticFrame.Transfer.Repaired

/-!
The NACKs go back to the sender over a network as well, which loses them, repeats
them or brings them late. A sender that hears nothing but what the receiver has
put on that network sends again only what the receiver has lacked when it asked:
fragments of superframes that had been sent, for which a bucket was open and which
the bucket had not got. What the receiver asks for, a sender never refuses.
-/

namespace ElasticFrame

open Lib Lib.Ranges

/-! ### Where a NACK comes from -/

namespace Receiver

variable {B : BufferSize}

/-- The loop of `processNacks` asks only for buckets that are due. -/
theorem of_mem_processNackList (cfg : ReceiverConfig) (clk : PassClock) {is : List B.Index}
    (hnodup : is.Nodup) {r : Receiver B} {d : List UInt8}
    (hd : d ∈ (processNackList cfg clk is r).2) :
    ∃ i ∈ is, r.nackDue cfg clk i = true ∧ d = (r.mpBuckets i).buildNack := by
  induction is generalizing r with
  | nil => exact absurd hd List.not_mem_nil
  | cons j is ih =>
      obtain ⟨hj, hnodup⟩ := List.nodup_cons.mp hnodup
      rw [processNackList] at hd
      rcases List.mem_append.mp hd with hd | hd
      · rw [processNack_eq] at hd
        split_ifs at hd with hdue
        · exact ⟨j, List.mem_cons_self, hdue, List.mem_singleton.mp hd⟩
        · exact absurd hd List.not_mem_nil
      · obtain ⟨i, hi, hdue, heq⟩ := ih hnodup hd
        have hne : i ≠ j := fun heq => hj (heq ▸ hi)
        have hbucket := processNack_other cfg clk hne r
        rw [nackDue_congr hbucket (jitter_processNack cfg clk r j)] at hdue
        exact ⟨i, List.mem_cons_of_mem _ hi, hdue, hbucket ▸ heq⟩

theorem Represented.of_mem_nacks {r : Receiver B} (h : r.Represented) {cfg : ReceiverConfig}
    {clk : PassClock} {d : List UInt8} (hd : d ∈ nacks (r.processTimeouts cfg clk).2) :
    ∃ i, (r.mpBuckets i).mActive = true ∧ (r.mpBuckets i).buildNack ≠ [] ∧
      d = (r.mpBuckets i).buildNack := by
  rw [nacks_processTimeouts, processNacks] at hd
  split_ifs at hd with hretries
  · exact absurd hd List.not_mem_nil
  · obtain ⟨i, hi, hdue, rfl⟩ := of_mem_processNackList cfg clk h.nodup_pending hd
    have hsome : (r.mpBuckets i).buildNack ≠ [] := by
      rw [nackDue, Bool.and_eq_true] at hdue
      exact of_decide_eq_true hdue.2
    exact ⟨i, h.mem_pending.mp hi, hsome, rfl⟩

/-- The bucket of the fragment is open for its superframe and has not got it. -/
structure Wants (r : Receiver B) (f : Fragment) : Prop where
  active : (r.bucketOf f.superFrameNo).mActive = true
  number : (r.bucketOf f.superFrameNo).mSavedFrameNo = f.superFrameNo
  missing : (r.bucketOf f.superFrameNo).Missing f.slot

/-- What the NACK of a bucket asks for is what is wanted of its superframe. -/
theorem Represented.wants_of_buildNack {r : Receiver B} (h : r.Represented) {i : B.Index}
    (hactive : (r.mpBuckets i).mActive = true) {S : Superframe}
    (hbelongs : (r.mpBuckets i).Belongs S) :
    ∀ call ∈ Retention.nackCalls (Sender.nackEntries (r.mpBuckets i).buildNack),
      ∃ f ∈ S.fragments,
        call = .request (makeRetentionKey f.superFrameNo (UInt16.ofNat f.slot)) f.streamId ∧
          r.Wants f := by
  intro call hcall
  have hwf := h.wellFormed i hactive
  have hsaved := hbelongs.mSavedFrameNo
  obtain ⟨rs, heq, hrs⟩ := (r.mpBuckets i).nackScan_missing
  rw [Bucket.nackCalls_buildNack (Nat.le_of_lt_succ hwf.of_lt) heq hrs] at hcall
  obtain ⟨lSlot, hslot, rfl⟩ := List.mem_map.mp hcall
  obtain ⟨range, hrange, hmem⟩ := List.mem_flatMap.mp hslot
  have hmissing : (r.mpBuckets i).Missing lSlot :=
    (hrs.covers _).mpr ⟨range, List.mem_of_mem_take hrange, Range.mem_numbers.mp hmem⟩
  have hlt : lSlot < S.fragments.length := by
    have hle := hmissing.1
    have hof := hbelongs.mOfFragmentNo
    omega
  -- the slot is that of a fragment of the superframe
  have hf : S.fragments[lSlot] ∈ S.fragments := List.getElem_mem hlt
  have hslot : S.fragments[lSlot].slot = lSlot := S.slot_getElem hlt
  have hnumber : S.fragments[lSlot].superFrameNo = (r.mpBuckets i).mSavedFrameNo :=
    (S.superFrameNo _ hf).trans hsaved.symm
  have hbucket : r.bucketOf S.fragments[lSlot].superFrameNo = r.mpBuckets i := by
    rw [Receiver.bucketOf, hnumber, hwf.index]
  refine ⟨S.fragments[lSlot], hf, ?_, ?_, ?_, ?_⟩
  · rw [hslot, hnumber, hbelongs.mStreamId, S.streamId _ hf]
  · rw [hbucket]
    exact hactive
  · rw [hbucket]
    exact hnumber.symm
  · rw [hbucket, hslot]
    exact hmissing

end Receiver

/-! ### Where a retransmission comes from -/

namespace Retention

variable {cfg : SenderConfig}

theorem mem_queue_step {s : Retention} {call : StoreCall} {r : RetransmitRequest}
    (hr : r ∈ ((machine cfg).step s call).1.mRetransmitQueue) :
    r ∈ s.mRetransmitQueue ∨ ∃ mStreamId, call = .request r.mKey mStreamId := by
  cases call with
  | evict lNow =>
      have hqueue : ((machine cfg).step s (.evict lNow)).1.mRetransmitQueue =
          s.mRetransmitQueue := mRetransmitQueue_evictLoop ..
      exact .inl (hqueue ▸ hr)
  | retain lNow mTimestampUs aSuperFrameNo aFragmentNo aStreamId apData =>
      have hqueue : ((machine cfg).step s (.retain lNow mTimestampUs aSuperFrameNo aFragmentNo
          aStreamId apData)).1.mRetransmitQueue = s.mRetransmitQueue :=
        mRetransmitQueue_retainFragment ..
      exact .inl (hqueue ▸ hr)
  | request lKey mStreamId =>
      simp only [machine, request] at hr
      split at hr
      · exact .inl hr
      · split_ifs at hr
        · rcases List.mem_append.mp hr with hr | hr
          · exact .inl hr
          · rw [List.mem_singleton.mp hr]
            exact .inr ⟨mStreamId, rfl⟩
        · exact .inl hr
  | take =>
      cases hqueue : s.mRetransmitQueue with
      | nil =>
          have htake : s.take = (s, none) := by rw [take, hqueue]
          simp only [machine, htake, hqueue] at hr
          exact .inl hr
      | cons lFirst rest =>
          have hrest := Sender.mRetransmitQueue_take hqueue
          exact .inl (List.mem_cons_of_mem _ (hrest ▸ hr))

theorem asked_of_mem_queue {calls : List StoreCall} {r : RetransmitRequest}
    (hr : r ∈ (({} : Retention).after cfg calls).mRetransmitQueue) :
    ∃ mStreamId, .request r.mKey mStreamId ∈ calls := by
  induction calls using List.reverseRecOn with
  | nil => exact absurd hr List.not_mem_nil
  | append_singleton calls call ih =>
      rw [after_append] at hr
      rcases mem_queue_step hr with hr | ⟨mStreamId, rfl⟩
      · obtain ⟨mStreamId, hmem⟩ := ih hr
        exact ⟨mStreamId, List.mem_append_left _ hmem⟩
      · exact ⟨mStreamId, List.mem_append_right _ (List.mem_singleton_self _)⟩

theorem mem_queue_of_take {s : Retention} {r : RetransmitRequest} {g : RetainedFragment}
    (h : s.take.2 = some (r, g)) : r ∈ s.mRetransmitQueue := by
  cases hqueue : s.mRetransmitQueue with
  | nil =>
      rw [take, hqueue] at h
      cases h
  | cons lFirst rest =>
      rw [take_cons hqueue] at h
      cases hlive : (s.pop lFirst rest).live lFirst.mKey lFirst.mGeneration with
      | none =>
          rw [hlive] at h
          cases h
      | some f =>
          rw [hlive] at h
          cases h
          exact List.mem_cons_self

end Retention

namespace Sender

variable {cfg : SenderConfig} {aData : List UInt8}

theorem mem_retransmitCalls {aMaxCount : ℕ} {queue : List RetransmitRequest} {lCount : ℕ}
    {s : Retention} : ∀ call ∈ retransmitCalls aMaxCount queue lCount s, call = .take := by
  induction queue generalizing lCount s with
  | nil => exact fun call hcall => absurd hcall List.not_mem_nil
  | cons lRequest rest ih =>
      intro call hcall
      rw [retransmitCalls] at hcall
      by_cases hcount : lCount < aMaxCount
      · rw [if_pos hcount] at hcall
        rcases List.mem_cons.mp hcall with rfl | hcall
        · rfl
        · exact ih call hcall
      · rw [if_neg hcount] at hcall
        exact absurd hcall List.not_mem_nil

theorem nack_of_request {s : Sender} {es : List SenderCall} {lKey : UInt32} {mStreamId : UInt8}
    (h : .request lKey mStreamId ∈ s.trace cfg es) :
    ∃ d, .receiveNack d ∈ es ∧ .request lKey mStreamId ∈ Retention.nackCalls (nackEntries d) := by
  have hall : ∀ call ∈ s.trace cfg es, call.Asks →
      ∃ d, .receiveNack d ∈ es ∧ call ∈ Retention.nackCalls (nackEntries d) := by
    refine (Sender.machine cfg).forall_flatten (fun s e he call hcall hasks => ?_) s
    cases e with
    | send clk aData args => exact absurd hasks (not_asks_sendCalls clk s aData args call hcall)
    | receiveNack d => exact ⟨d, he, hcall⟩
    | processRetransmits aMaxCount =>
        rw [mem_retransmitCalls call hcall] at hasks
        exact absurd hasks id
  exact hall _ h trivial

/-- The key and the stream under which a fragment is retained are its own. -/
theorem entry_planned (h : Sendable cfg aData) (s : Sender) (args : SendArgs) {k : ℕ}
    {data : List UInt8}
    (hk : ((s.planned cfg aData args).fragments aData (plan cfg aData.length).2)[k]? =
      some data) :
    ∃ f, Fragment.ofPacket data = some f ∧
      makeRetentionKey s.mSuperFrameNo (UInt16.ofNat k) =
        makeRetentionKey f.superFrameNo (UInt16.ofNat f.slot) ∧ args.aStreamId = f.streamId := by
  rw [← Outgoing.map_packet_superframe, List.getElem?_map] at hk
  obtain ⟨f, hget, rfl⟩ := Option.map_eq_some_iff.mp hk
  have hf := List.mem_of_getElem? hget
  have hslot : f.slot = k := by
    have hslots := congrArg (fun l => l[k]?) (slots_planned h s args)
    simp only [List.getElem?_map, hget, Option.map_some] at hslots
    obtain ⟨hlt, heq⟩ := List.getElem?_eq_some_iff.mp hslots.symm
    rw [← heq, List.getElem_range]
  have hnumber : f.superFrameNo = s.mSuperFrameNo := Outgoing.superFrameNo_superframe hf
  have hstream : f.streamId = args.aStreamId := Outgoing.streamId_superframe hf
  refine ⟨f, Outgoing.ofPacket_superframe hf, ?_, hstream.symm⟩
  rw [hslot, hnumber]

/-- What is retained at any time is cut from a superframe of the run, and stands
under its own key. -/
theorem retained_cutFrom {es : List SenderCall} {before : List StoreCall}
    (hbefore : before <+: (Sender.new cfg).trace cfg es) {lKey : UInt32} {g : RetainedFragment}
    (hg : (lKey, g) ∈ (({} : Retention).after cfg before).retained) :
    ∃ k f, CutFrom cfg 0 ((Sender.new cfg).successes cfg es) k f ∧
      lKey = makeRetentionKey f.superFrameNo (UInt16.ofNat f.slot) ∧
      g.mStreamId = f.streamId ∧ g.mData = f.packet := by
  refine Retention.represented_empty.all_entries
    (P := fun lKey mStreamId mData => ∃ k f,
      CutFrom cfg 0 ((Sender.new cfg).successes cfg es) k f ∧
        lKey = makeRetentionKey f.superFrameNo (UInt16.ofNat f.slot) ∧
        mStreamId = f.streamId ∧ mData = f.packet)
    (fun e he => absurd he List.not_mem_nil) (fun call hcall => ?_) _ hg
  have hentry := forall_entries
    (P := fun lKey mStreamId mData => ∃ f, Fragment.ofPacket mData = some f ∧
      lKey = makeRetentionKey f.superFrameNo (UInt16.ofNat f.slot) ∧ mStreamId = f.streamId)
    (fun s aData args h k data hk => entry_planned h s args hk) (Sender.new cfg) es call
    (hbefore.subset hcall)
  have hmade := made_run (Sender.new cfg) es call (hbefore.subset hcall)
  cases call with
  | evict | request | take => trivial
  | retain lNow mTimestampUs aSuperFrameNo aFragmentNo aStreamId apData =>
      obtain ⟨k, f, hf, hpacket⟩ := hmade apData rfl
      obtain ⟨f', hf', hkey, hstream⟩ := hentry
      rw [← hpacket, hf.ofPacket, Option.some.injEq] at hf'
      subst hf'
      exact ⟨k, f, hf, hkey, hstream, hpacket.symm⟩

theorem CutFrom.sent {n : UInt16} {sends : List SenderCall} {k : ℕ} {f : Fragment}
    (h : CutFrom cfg n sends k f) (hle : ∀ e ∈ sends, WithinEstimate cfg e) :
    ∃ S, Sent cfg n sends k S ∧ f ∈ S.fragments := by
  obtain ⟨clk, aData, args, hget, h, hf⟩ := h
  refine ⟨_, .intro hget h (hle _ (List.mem_of_getElem? hget) h), ?_⟩
  rwa [fragments_superframeOf]

/-- Two superframes with one number are the same, if no number has been used
twice. -/
theorem Sent.eq_of_number {n : UInt16} {sends : List SenderCall} {k k' : ℕ} {S S' : Superframe}
    (h : Sent cfg n sends k S) (hcount : sends.length ≤ 65536) (h' : Sent cfg n sends k' S')
    (hsame : S.mSuperFrameNo = S'.mSuperFrameNo) : S = S' := by
  rw [h.mSuperFrameNo, h'.mSuperFrameNo] at hsame
  obtain rfl := number_injective (h.lt.trans_le hcount) (h'.lt.trans_le hcount) hsame
  exact h.unique h'

theorem Sent.of_prefix {n : UInt16} {sends sends' : List SenderCall} {k : ℕ} {S : Superframe}
    (h : Sent cfg n sends k S) (hext : sends <+: sends') : Sent cfg n sends' k S := by
  obtain ⟨rest, rfl⟩ := hext
  cases h with
  | @intro clk aData args get h hle =>
      have hget : (sends ++ rest)[k]? = some (.send clk aData args) := by
        rw [List.getElem?_append_left (List.getElem?_eq_some_iff.mp get).1, get]
      exact .intro hget h hle

end Sender

theorem Fragment.slot_lt (f : Fragment) : f.slot < 65536 := by
  cases f with
  | type1 d => exact UInt16.toNat_lt _
  | type2 d => exact UInt16.toNat_lt _
  | type3 d => exact lt_of_le_of_lt (Nat.sub_le _ _) (UInt16.toNat_lt _)

theorem eq_of_makeRetentionKey {n n' : UInt16} {k k' : ℕ} (hk : k < 65536) (hk' : k' < 65536)
    (heq : makeRetentionKey n (UInt16.ofNat k) = makeRetentionKey n' (UInt16.ofNat k')) :
    n = n' ∧ k = k' := by
  have hnat := congrArg UInt32.toNat heq
  rw [toNat_makeRetentionKey, toNat_makeRetentionKey, UInt16.toNat_ofNat_of_lt' hk,
    UInt16.toNat_ofNat_of_lt' hk'] at hnat
  exact ⟨UInt16.toNat_inj.mp (by omega), by omega⟩

/-! ### What the receiver asks for -/

namespace Network

variable {B : BufferSize} {scfg : SenderConfig} {rcfg : ReceiverConfig}

/-- An open bucket is made of fragments of one superframe that was sent. -/
theorem built_of_run {es : List NetworkEvent}
    (hcount : ((Sender.new scfg).successes scfg (senderCalls es)).length ≤ 65536)
    (hle : ∀ e ∈ senderCalls es, Sender.WithinEstimate scfg e) {i : B.Index}
    (hactive : (((machine B scfg rcfg).run (new B scfg) es).1.receiver.mpBuckets i).mActive =
      true) :
    ∃ h k S, (((machine B scfg rcfg).run (new B scfg) es).1.receiver.mpBuckets i).core.Built h ∧
      Sender.Sent scfg 0 ((Sender.new scfg).successes scfg (senderCalls es)) k S ∧
      ∀ f ∈ h, f ∈ S.fragments := by
  set as := (Receiver.machine B rcfg).flatten (Receiver.acts rcfg) (Receiver.fresh B)
    ((new B scfg).receiverCalls scfg rcfg es)
  have hreceiver : ((machine B scfg rcfg).run (new B scfg) es).1.receiver =
      ((Traced.machine B rcfg).run (Traced.fresh B) as).1.receiver := by
    rw [(run_receiver _ es).1, Receiver.run_acts, (Traced.run_receiver rcfg (Traced.fresh B) as).1]
    rfl
  have hfaithful := Traced.faithful_run (Traced.faithful_fresh (B := B)) rcfg as
  have hcut : ∀ now memalign src f, .handle now memalign src f ∈ as → ∃ k,
      Sender.CutFrom scfg 0 ((Sender.new scfg).successes scfg (senderCalls es)) k f :=
    fun now memalign src f hact => cutFrom_acts hact
  have haccepted := (Traced.forall_accepted rcfg hcut).1 i
  have hsends : ∀ e ∈ (Sender.new scfg).successes scfg (senderCalls es),
      Sender.WithinEstimate scfg e := fun e he => hle e (Sender.mem_of_mem_successes he)
  rw [hreceiver] at hactive ⊢
  have hbuilt := hfaithful.built i hactive
  -- all of its fragments have its number
  obtain ⟨f, hf⟩ := List.exists_mem_of_ne_nil _ hbuilt.ne_nil
  obtain ⟨k, hk⟩ := haccepted f hf
  obtain ⟨S, hS, hfS⟩ := hk.sent hsends
  refine ⟨_, k, S, hbuilt, hS, fun g hg => ?_⟩
  obtain ⟨k', hk'⟩ := haccepted g hg
  obtain ⟨S', hS', hgS'⟩ := hk'.sent hsends
  have hsame : S'.mSuperFrameNo = S.mSuperFrameNo := by
    rw [← S'.superFrameNo g hgS', ← S.superFrameNo f hfS, hbuilt.superFrameNo g hg,
      hbuilt.superFrameNo f hf]
  exact hS'.eq_of_number hcount hS hsame ▸ hgS'

/-- A NACK asks for what a bucket of a superframe that was sent wants, and every
sender takes it. -/
theorem wants_of_mem_nacks {es : List NetworkEvent}
    (hcount : ((Sender.new scfg).successes scfg (senderCalls es)).length ≤ 65536)
    (hle : ∀ e ∈ senderCalls es, Sender.WithinEstimate scfg e) {clk : PassClock} {d : List UInt8}
    (hd : d ∈ Receiver.nacks
      (((machine B scfg rcfg).run (new B scfg) es).1.receiver.processTimeouts rcfg clk).2) :
    (∀ s : Sender, (s.receiveNack d).2 = .ok) ∧
      ∃ k S, Sender.Sent scfg 0 ((Sender.new scfg).successes scfg (senderCalls es)) k S ∧
        ∀ call ∈ Retention.nackCalls (Sender.nackEntries d), ∃ f ∈ S.fragments,
          call = .request (makeRetentionKey f.superFrameNo (UInt16.ofNat f.slot)) f.streamId ∧
            ((machine B scfg rcfg).run (new B scfg) es).1.receiver.Wants f := by
  have hrep : ((machine B scfg rcfg).run (new B scfg) es).1.receiver.Represented := by
    rw [(run_receiver _ es).1]
    exact Receiver.represented_run Receiver.represented_fresh rcfg _
  obtain ⟨i, hactive, hsome, rfl⟩ := hrep.of_mem_nacks hd
  obtain ⟨h, k, S, hbuilt, hS, hfs⟩ := built_of_run hcount hle hactive
  have hle8191 := Nat.le_of_lt_succ (hrep.wellFormed i hactive).of_lt
  obtain ⟨rs, heq, hrs⟩ := Bucket.nackScan_missing _
  exact ⟨Bucket.receiveNack_buildNack hle8191 heq hrs hsome, k, S, hS,
    hrep.wants_of_buildNack hactive (Bucket.belongs_core.mp (hbuilt.belongs hfs))⟩

end Network

/-! ### The way back -/

/-- A network, and all NACKs that the receiver has put on it. -/
structure Feedback (B : BufferSize) where
  network : Network B
  nacks : List (List UInt8) := []

/-- A call of the sender's application, the delivery of a NACK or of a packet that
has been sent before, or a pass of the receiver. -/
inductive FeedbackEvent
  | send (clk : SendClock) (aData : List UInt8) (args : SendArgs)
  | processRetransmits (aMaxCount : ℕ)
  | nack (j : ℕ)
  | packet (env : Surroundings) (k : ℕ) (aSourceId : UInt8)
  | pass (clk : PassClock)

def FeedbackEvent.events (nacks : List (List UInt8)) : FeedbackEvent → List NetworkEvent
  | send clk aData args => [.sender (.send clk aData args)]
  | processRetransmits aMaxCount => [.sender (.processRetransmits aMaxCount)]
  | nack j => (nacks[j]?.map fun d => .sender (.receiveNack d)).toList
  | packet env k aSourceId => [.packet env k aSourceId]
  | pass clk => [.pass clk]

namespace Feedback

variable {B : BufferSize} {scfg : SenderConfig} {rcfg : ReceiverConfig}

def new (B : BufferSize) (scfg : SenderConfig) : Feedback B where
  network := Network.new B scfg

def machine (B : BufferSize) (scfg : SenderConfig) (rcfg : ReceiverConfig) :
    Machine (Feedback B) FeedbackEvent (Receiver.Output B) where
  step s e :=
    let run := (Network.machine B scfg rcfg).run s.network (e.events s.nacks)
    ({ network := run.1, nacks := s.nacks ++ Receiver.nacks run.2 }, run.2)

def events (scfg : SenderConfig) (rcfg : ReceiverConfig) (s : Feedback B)
    (es : List FeedbackEvent) : List NetworkEvent :=
  (machine B scfg rcfg).flatten (fun s e => e.events s.nacks) s es

theorem run_network (s : Feedback B) (es : List FeedbackEvent) :
    ((machine B scfg rcfg).run s es).1.network =
      ((Network.machine B scfg rcfg).run s.network (s.events scfg rcfg es)).1 :=
  Machine.run_flatten_part _ _ Feedback.network _ (fun _ _ => rfl) s es

theorem nacks_subset (s : Feedback B) (es : List FeedbackEvent) :
    s.nacks ⊆ ((machine B scfg rcfg).run s es).1.nacks := by
  induction es generalizing s with
  | nil => exact List.Subset.refl _
  | cons e es ih =>
      exact List.Subset.trans (List.subset_append_left _ _) (ih ((machine B scfg rcfg).step s e).1)

theorem mem_nacks_of_events {s : Feedback B} {es : List FeedbackEvent} {d : List UInt8}
    (h : .sender (.receiveNack d) ∈ s.events scfg rcfg es) :
    d ∈ ((machine B scfg rcfg).run s es).1.nacks := by
  induction es generalizing s with
  | nil => exact absurd h List.not_mem_nil
  | cons e es ih =>
      rw [events, Machine.flatten] at h
      rcases List.mem_append.mp h with h | h
      · apply nacks_subset s (e :: es)
        cases e with
        | nack j =>
            obtain ⟨d', hd', heq⟩ := Option.map_eq_some_iff.mp (Option.mem_toList.mp h)
            cases heq
            exact List.mem_of_getElem? hd'
        | send clk aData args => cases List.mem_singleton.mp h
        | processRetransmits aMaxCount => cases List.mem_singleton.mp h
        | packet env k aSourceId => cases List.mem_singleton.mp h
        | pass clk => cases List.mem_singleton.mp h
      · exact ih h

theorem pass_of_mem_nacks {es : List FeedbackEvent} {d : List UInt8}
    (hd : d ∈ ((machine B scfg rcfg).run (new B scfg) es).1.nacks) :
    ∃ before clk, before ++ [.pass clk] <+: es ∧
      d ∈ Receiver.nacks ((((machine B scfg rcfg).run (new B scfg)
        before).1.network.receiver.processTimeouts rcfg clk).2) := by
  induction es using List.reverseRecOn with
  | nil => exact absurd hd List.not_mem_nil
  | append_singleton es e ih =>
      rw [Machine.run_concat] at hd
      rcases List.mem_append.mp hd with hd | hd
      · obtain ⟨before, clk, hext, hmem⟩ := ih hd
        exact ⟨before, clk, hext.trans (List.prefix_append _ _), hmem⟩
      · generalize hs : ((machine B scfg rcfg).run (new B scfg) es).1 = s at hd
        cases e with
        | pass clk =>
            refine ⟨es, clk, List.prefix_rfl, ?_⟩
            rw [hs]
            rwa [FeedbackEvent.events, Machine.run_cons, Machine.run_nil, List.append_nil] at hd
        | send clk aData args => exact absurd hd List.not_mem_nil
        | processRetransmits aMaxCount => exact absurd hd List.not_mem_nil
        | nack j =>
            simp only [FeedbackEvent.events] at hd
            cases hget : s.nacks[j]? with
            | none =>
                rw [hget] at hd
                exact absurd hd List.not_mem_nil
            | some d' =>
                rw [hget] at hd
                exact absurd hd List.not_mem_nil
        | packet env k aSourceId =>
            simp only [FeedbackEvent.events, Machine.run_cons, Machine.run_nil,
              Network.machine] at hd
            split at hd <;> exact absurd hd List.not_mem_nil

/-- What the application sends is within the limit of the receiver's estimate. -/
def WithinEstimate (scfg : SenderConfig) (es : List FeedbackEvent) : Prop :=
  ∀ clk aData args, .send clk aData args ∈ es →
    Sender.WithinEstimate scfg (.send clk aData args)

theorem WithinEstimate.senderCalls {es : List FeedbackEvent} (h : WithinEstimate scfg es) :
    ∀ e ∈ senderCalls ((new B scfg).events scfg rcfg es), Sender.WithinEstimate scfg e := by
  intro e he
  obtain ⟨event, hevent, heq⟩ := List.mem_filterMap.mp he
  refine (machine B scfg rcfg).forall_flatten
    (P := fun event => ∀ e, event = .sender e → Sender.WithinEstimate scfg e)
    (fun s e he event hevent => ?_) (new B scfg) event hevent e ?_
  · rintro call rfl
    cases e with
    | send clk aData args =>
        cases List.mem_singleton.mp hevent
        exact h clk aData args he
    | processRetransmits aMaxCount =>
        cases List.mem_singleton.mp hevent
        trivial
    | nack j =>
        obtain ⟨d, -, heq⟩ := Option.map_eq_some_iff.mp (Option.mem_toList.mp hevent)
        cases heq
        trivial
    | packet env k aSourceId => cases List.mem_singleton.mp hevent
    | pass clk => cases List.mem_singleton.mp hevent
  · cases event with
    | sender call =>
        cases heq
        rfl
    | packet env k aSourceId => cases heq
    | pass clk => cases heq

def sends (scfg : SenderConfig) (rcfg : ReceiverConfig) (B : BufferSize)
    (es : List FeedbackEvent) : List SenderCall :=
  (Sender.new scfg).successes scfg (senderCalls ((new B scfg).events scfg rcfg es))

theorem senderCalls_mono (B : BufferSize) (scfg : SenderConfig) (rcfg : ReceiverConfig)
    {before es : List FeedbackEvent} (h : before <+: es) :
    senderCalls ((new B scfg).events scfg rcfg before) <+:
      senderCalls ((new B scfg).events scfg rcfg es) := by
  obtain ⟨rest, rfl⟩ := h
  rw [events, events, Machine.flatten_append, Network.senderCalls_append]
  exact List.prefix_append _ _

theorem sends_mono (B : BufferSize) (scfg : SenderConfig) (rcfg : ReceiverConfig)
    {before es : List FeedbackEvent} (h : before <+: es) :
    sends scfg rcfg B before <+: sends scfg rcfg B es := by
  obtain ⟨rest, hrest⟩ := senderCalls_mono B scfg rcfg h
  rw [sends, sends, ← hrest, Sender.successes, Sender.successes, Machine.flatten_append]
  exact List.prefix_append _ _

/-- A pass of the receiver has asked for a fragment that had been sent and that it
wanted. -/
def AskedFor (B : BufferSize) (scfg : SenderConfig) (rcfg : ReceiverConfig)
    (es : List FeedbackEvent) (f : Fragment) : Prop :=
  ∃ before clk, before ++ [.pass clk] <+: es ∧
    let r := ((machine B scfg rcfg).run (new B scfg) before).1.network.receiver
    (∃ k S, Sender.Sent scfg 0 (sends scfg rcfg B before) k S ∧ f ∈ S.fragments) ∧
      r.Wants f ∧
      ∃ d ∈ Receiver.nacks (r.processTimeouts rcfg clk).2,
        .request (makeRetentionKey f.superFrameNo (UInt16.ofNat f.slot)) f.streamId ∈
          Retention.nackCalls (Sender.nackEntries d)

variable {es : List FeedbackEvent}

theorem askedFor_of_mem_nacks (hcount : (sends scfg rcfg B es).length ≤ 65536)
    (hle : WithinEstimate scfg es) {d : List UInt8}
    (hd : d ∈ ((machine B scfg rcfg).run (new B scfg) es).1.nacks) :
    (∀ s : Sender, (s.receiveNack d).2 = .ok) ∧
      ∀ call ∈ Retention.nackCalls (Sender.nackEntries d), ∃ f,
        call = .request (makeRetentionKey f.superFrameNo (UInt16.ofNat f.slot)) f.streamId ∧
          AskedFor B scfg rcfg es f := by
  obtain ⟨before, clk, hext, hmem⟩ := pass_of_mem_nacks hd
  have hbefore := (List.prefix_append before [FeedbackEvent.pass clk]).trans hext
  have hcount' := (sends_mono B scfg rcfg hbefore).length_le.trans hcount
  have hle' : WithinEstimate scfg before := fun clk aData args hsend =>
    hle clk aData args (hbefore.subset hsend)
  have hnetwork : ((machine B scfg rcfg).run (new B scfg) before).1.network = _ :=
    run_network (new B scfg) before
  have hmem' := hmem
  rw [hnetwork] at hmem'
  obtain ⟨haccepted, k, S, hS, hwants⟩ := Network.wants_of_mem_nacks hcount' hle'.senderCalls hmem'
  refine ⟨haccepted, fun call hcall => ?_⟩
  obtain ⟨f, hf, rfl, hwant⟩ := hwants call hcall
  refine ⟨f, rfl, before, clk, hext, ⟨k, S, hS, hf⟩, ?_, d, hmem, hcall⟩
  rw [hnetwork]
  exact hwant

/-- Whatever the two networks do: no NACK of the receiver is refused, and each
fragment that the sender sends again, on its own or in a bundle, is one that the
receiver wanted when it asked for it. -/
theorem resends_what_is_wanted (B : BufferSize) (scfg : SenderConfig) (rcfg : ReceiverConfig)
    (es : List FeedbackEvent) (hcount : (sends scfg rcfg B es).length ≤ 65536)
    (hle : WithinEstimate scfg es) :
    (∀ d, .receiveNack d ∈ senderCalls ((new B scfg).events scfg rcfg es) →
      ∀ s : Sender, (s.receiveNack d).2 = .ok) ∧
    ∀ before, before ++ [.take] <+:
        (Sender.new scfg).trace scfg (senderCalls ((new B scfg).events scfg rcfg es)) →
      ∀ lRequest g, (({} : Retention).after scfg before).take.2 = some (lRequest, g) →
        ∃ f, g.mData = f.packet ∧ g.mStreamId = f.streamId ∧ AskedFor B scfg rcfg es f := by
  have hheard : ∀ d, .receiveNack d ∈ senderCalls ((new B scfg).events scfg rcfg es) →
      d ∈ ((machine B scfg rcfg).run (new B scfg) es).1.nacks := by
    intro d hd
    obtain ⟨e, he, heq⟩ := List.mem_filterMap.mp hd
    cases e with
    | sender e =>
        cases heq
        exact mem_nacks_of_events he
    | packet env k aSourceId => cases heq
    | pass clk => cases heq
  refine ⟨fun d hd => (askedFor_of_mem_nacks hcount hle (hheard d hd)).1,
    fun before hbefore lRequest g htake => ?_⟩
  have hext := (List.prefix_append before [StoreCall.take]).trans hbefore
  -- the fragment stands under its key, and a NACK has asked for the key
  obtain ⟨k', f', hcut, hkey', hstream', hdata'⟩ := Sender.retained_cutFrom hext
    (Retention.mem_retained_of_take (Retention.represented_empty.after scfg before) htake)
  obtain ⟨mStreamId, hrequest⟩ :=
    Retention.asked_of_mem_queue (Retention.mem_queue_of_take htake)
  obtain ⟨d, hd, hcall⟩ := Sender.nack_of_request (hext.subset hrequest)
  obtain ⟨f, hcall, hasked⟩ :=
    (askedFor_of_mem_nacks hcount hle (hheard d hd)).2 _ hcall
  rw [StoreCall.request.injEq] at hcall
  -- so the two are one
  obtain ⟨hnumber, hslot⟩ :=
    eq_of_makeRetentionKey f'.slot_lt f.slot_lt (hkey'.symm.trans hcall.1)
  have hsends : ∀ e ∈ sends scfg rcfg B es, Sender.WithinEstimate scfg e :=
    fun e he => hle.senderCalls e (Sender.mem_of_mem_successes he)
  obtain ⟨S', hS', hf'⟩ := hcut.sent hsends
  obtain ⟨pre, clk, hpre, ⟨k, S, hS, hf⟩, -⟩ := id hasked
  have hwhole := hS.of_prefix (sends_mono B scfg rcfg ((List.prefix_append pre _).trans hpre))
  have hsame : S'.mSuperFrameNo = S.mSuperFrameNo := by
    rw [← S'.superFrameNo f' hf', ← S.superFrameNo f hf, hnumber]
  obtain rfl := hS'.eq_of_number hcount hwhole hsame
  obtain rfl := S'.eq_of_slot hf' hf hslot
  exact ⟨f', hdata', hstream', hasked⟩

/-- Of three packets only the last one arrives, the NACK for the others twice; they
are sent again once. -/
def nackedTwice : List FeedbackEvent :=
  [.send (Sample.clockAt 0) (List.replicate 500 7) Sample.sendArgs, .packet Sample.env 2 0,
    .pass Network.askClk, .nack 0, .nack 0, .processRetransmits 9]

theorem resends_what_is_wanted_nackedTwice :
    let es := nackedTwice
    let calls := senderCalls ((new .default Network.singleCfg).events Network.singleCfg {} es)
    ((Sender.machine Network.singleCfg).run (Sender.new Network.singleCfg) calls).2.length = 5 ∧
    (∀ d, .receiveNack d ∈ calls → ∀ s : Sender, (s.receiveNack d).2 = .ok) ∧
    ∀ before, before ++ [.take] <+: (Sender.new Network.singleCfg).trace Network.singleCfg calls →
      ∀ lRequest g, (({} : Retention).after Network.singleCfg before).take.2 = some (lRequest, g) →
        ∃ f, g.mData = f.packet ∧ g.mStreamId = f.streamId ∧
          AskedFor .default Network.singleCfg {} es f := by
  refine ⟨by decide +kernel,
    resends_what_is_wanted .default Network.singleCfg {} nackedTwice (by decide +kernel) ?_⟩
  intro clk aData args hsend
  simp only [nackedTwice, List.mem_cons, List.not_mem_nil, or_false, FeedbackEvent.send.injEq,
    reduceCtorEq] at hsend
  obtain ⟨rfl, rfl, rfl⟩ := hsend
  exact fun _ => by decide +kernel

end Feedback

end ElasticFrame
