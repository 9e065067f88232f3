import ElasticFrame.Receiver.Accounts
import ElasticFrame.Repair.Timing
import ElasticFrame.Transfer.Exchange
import ElasticFrame.Transfer.Recovery

/-!
A session over a network that loses packets, and one round of NACKs that gets
through. The pass at the beginning of the round asks for all that is missing in
every bucket that has been opened, the sender sends again what it still retains,
and when that has arrived every superframe is there. Whatever has happened
before, rounds that got lost included, does not matter.
-/

namespace ElasticFrame

open Lib Lib.Ranges

/-! ### What is asked for -/

namespace Receiver

variable {B : BufferSize}

theorem mem_processNackList (cfg : ReceiverConfig) (clk : PassClock) {i : B.Index}
    {is : List B.Index} (hnodup : is.Nodup) (hi : i ∈ is) {r : Receiver B}
    (hdue : r.nackDue cfg clk i = true) :
    (r.mpBuckets i).buildNack ∈ (processNackList cfg clk is r).2 := by
  induction is generalizing r with
  | nil => exact absurd hi List.not_mem_nil
  | cons j is ih =>
      obtain ⟨hj, hnodup⟩ := List.nodup_cons.mp hnodup
      rw [processNackList]
      rcases List.mem_cons.mp hi with rfl | hi
      · rw [processNack_eq, if_pos hdue]
        exact List.mem_append_left _ (List.mem_singleton_self _)
      · have hne : i ≠ j := fun heq => hj (heq ▸ hi)
        have hbucket := processNack_other cfg clk hne r
        have hsame : (r.processNack cfg clk j).1.nackDue cfg clk i = r.nackDue cfg clk i :=
          nackDue_congr hbucket (jitter_processNack cfg clk r j)
        rw [← hbucket]
        exact List.mem_append_right _ (ih hnodup hi (hsame.trans hdue))

theorem Represented.mem_nacks {r : Receiver B} (h : r.Represented) {cfg : ReceiverConfig}
    {clk : PassClock} {i : B.Index} (hactive : (r.mpBuckets i).mActive = true)
    (hdue : r.nackDue cfg clk i = true) :
    (r.mpBuckets i).buildNack ∈ nacks (r.processTimeouts cfg clk).2 := by
  have hretries : cfg.mMaxNackRetries ≠ 0 := by
    intro hzero
    simp [nackDue, hzero] at hdue
  rw [nacks_processTimeouts, processNacks, if_neg hretries]
  exact mem_processNackList cfg clk h.nodup_pending (h.mem_pending.mpr hactive) hdue

end Receiver

/-! ### What is sent again -/

namespace Retention

variable {cfg : SenderConfig}

theorem asks_nackCalls (lEntries : List NackEntry) :
    ∀ call ∈ nackCalls lEntries, call.Asks := by
  intro call hcall
  obtain ⟨lEntry, -, hmem⟩ := List.mem_flatMap.mp hcall
  obtain ⟨k, -, rfl⟩ := List.mem_map.mp hmem
  trivial

/-- A request keeps the fragments, and the generations that are queued. -/
theorem request_keeps (s : Retention) (lKey : UInt32) (mStreamId : UInt8) :
    (s.request lKey mStreamId).mRetentionBuffer = s.mRetentionBuffer ∧
      s.mQueuedRetransmits ⊆ (s.request lKey mStreamId).mQueuedRetransmits := by
  unfold request
  split
  · exact ⟨rfl, subset_rfl⟩
  · split_ifs
    · exact ⟨rfl, Finset.subset_insert _ _⟩
    · exact ⟨rfl, subset_rfl⟩

/-- The generation that is requested is queued, if it is retained for its stream. -/
theorem request_queues {s : Retention} {lKey : UInt32} {f : RetainedFragment}
    (hkey : s.mRetentionBuffer[lKey]? = some f) :
    f.mGeneration ∈ (s.request lKey f.mStreamId).mQueuedRetransmits := by
  simp only [request, hkey, true_and]
  by_cases hqueued : f.mGeneration ∈ s.mQueuedRetransmits
  · rw [if_neg (not_not.mpr hqueued)]
    exact hqueued
  · rw [if_pos hqueued]
    exact Finset.mem_insert_self _ _

theorem after_asks {calls : List StoreCall} (hcalls : ∀ call ∈ calls, call.Asks) (s : Retention) :
    (s.after cfg calls).mRetentionBuffer = s.mRetentionBuffer ∧
      s.mQueuedRetransmits ⊆ (s.after cfg calls).mQueuedRetransmits := by
  induction calls generalizing s with
  | nil => exact ⟨rfl, subset_rfl⟩
  | cons call calls ih =>
      have hasks := hcalls call List.mem_cons_self
      obtain ⟨hbuffer, hset⟩ := ih (fun call hcall => hcalls call (List.mem_cons_of_mem _ hcall))
        ((machine cfg).step s call).1
      rw [after_cons]
      cases call with
      | request lKey mStreamId =>
          obtain ⟨hbuffer', hset'⟩ := s.request_keeps lKey mStreamId
          exact ⟨hbuffer.trans hbuffer', hset'.trans hset⟩
      | evict => exact absurd hasks id
      | retain => exact absurd hasks id
      | take => exact absurd hasks id

theorem queued_of_asked {calls : List StoreCall} (hcalls : ∀ call ∈ calls, call.Asks)
    {s : Retention} {lKey : UInt32} {f : RetainedFragment}
    (hkey : s.mRetentionBuffer[lKey]? = some f) (hmem : .request lKey f.mStreamId ∈ calls) :
    f.mGeneration ∈ (s.after cfg calls).mQueuedRetransmits := by
  obtain ⟨before, later, rfl⟩ := List.append_of_mem hmem
  have hbefore : (s.after cfg before).mRetentionBuffer = s.mRetentionBuffer :=
    (after_asks (fun call hcall => hcalls call (List.mem_append_left _ hcall)) s).1
  have hlater : ∀ call ∈ later, call.Asks := fun call hcall =>
    hcalls call (List.mem_append_right _ (List.mem_cons_of_mem _ hcall))
  rw [after_append, after_cons]
  exact (after_asks hlater _).2 (request_queues (hbefore ▸ hkey))

end Retention

namespace Sender

variable {cfg : SenderConfig}

theorem retention_receiveNacks (s : Sender) (ds : List (List UInt8)) :
    ((Sender.machine cfg).run s (ds.map .receiveNack)).1.retention =
      s.retention.after cfg (ds.flatMap fun d => Retention.nackCalls (nackEntries d)) := by
  induction ds generalizing s with
  | nil => rfl
  | cons d ds ih =>
      rw [List.map_cons, Machine.run_cons, List.flatMap_cons, Retention.after_append,
        ← receiveNack_retention]
      exact ih _

theorem mem_processRetransmits {es : List SenderCall} {mKey : UInt32} {f : RetainedFragment}
    (hkey : ((Sender.machine cfg).run (Sender.new cfg) es).1.retention.mRetentionBuffer[mKey]? =
      some f)
    (hqueued : f.mGeneration ∈
      ((Sender.machine cfg).run (Sender.new cfg) es).1.retention.mQueuedRetransmits) :
    f.packet ∈ (((Sender.machine cfg).run (Sender.new cfg) es).1.processRetransmits sizeMax).2 := by
  obtain ⟨hs, hq, -⟩ := queued_of_run cfg es
  have hcard := card_queued_lt cfg es hq
  set s := ((Sender.machine cfg).run (Sender.new cfg) es).1
  obtain ⟨r, hr, hgen, hsome⟩ := (hq.queued _).mp hqueued
  obtain ⟨g, hg, hggen⟩ := Retention.isSome_live.mp hsome
  have hsame : r.mKey = mKey := hs.key_unique hg hkey (hggen.trans hgen)
  obtain rfl : g = f := by
    rw [hsame, hkey, Option.some.injEq] at hg
    exact hg.symm
  have hservable : (r, g) ∈ s.retention.servable :=
    Retention.mem_servable.mpr ⟨hr, Retention.live_eq_some.mpr ⟨hg, hggen⟩⟩
  rw [processRetransmits_packets hq, List.take_of_length_le]
  · exact List.mem_map.mpr ⟨(r, g), hservable, rfl⟩
  · rw [hq.length_servable]
    exact Nat.le_of_lt (lt_trans hcard (by decide))

/-- The sender is given the NACKs, and sends all that is queued. -/
def answer (ds : List (List UInt8)) : List SenderCall :=
  ds.map .receiveNack ++ [.processRetransmits sizeMax]

/-- A retained fragment that one of the NACKs asks for is in the answer. -/
theorem mem_answer {es : List SenderCall} {ds : List (List UInt8)} {mKey : UInt32}
    {f : RetainedFragment}
    (hkey : ((Sender.machine cfg).run (Sender.new cfg) es).1.retention.mRetentionBuffer[mKey]? =
      some f)
    {d : List UInt8} (hd : d ∈ ds)
    (hasked : .request mKey f.mStreamId ∈ Retention.nackCalls (nackEntries d)) :
    f.packet ∈ ((Sender.machine cfg).run
      ((Sender.machine cfg).run (Sender.new cfg) es).1 (answer ds)).2 := by
  set s := ((Sender.machine cfg).run (Sender.new cfg) es).1 with hs
  have hasks : ∀ call ∈ ds.flatMap fun d => Retention.nackCalls (nackEntries d), call.Asks := by
    intro call hcall
    obtain ⟨d, -, hmem⟩ := List.mem_flatMap.mp hcall
    exact Retention.asks_nackCalls _ call hmem
  have hnacked : ((Sender.machine cfg).run (Sender.new cfg) (es ++ ds.map .receiveNack)).1 =
      ((Sender.machine cfg).run s (ds.map .receiveNack)).1 := by
    rw [Machine.run_append]
  have hretention := @retention_receiveNacks cfg s ds
  have hsent : f.packet ∈ (((Sender.machine cfg).run (Sender.new cfg)
      (es ++ ds.map .receiveNack)).1.processRetransmits sizeMax).2 := by
    apply mem_processRetransmits
    · rw [hnacked, hretention, (Retention.after_asks hasks s.retention).1]
      exact hkey
    · rw [hnacked, hretention]
      exact Retention.queued_of_asked hasks hkey (List.mem_flatMap.mpr ⟨d, hd, hasked⟩)
  rw [hnacked] at hsent
  rw [answer, Machine.run_append]
  exact List.mem_append_right _ (List.mem_append_left _ hsent)

theorem withinEstimate_answer (ds : List (List UInt8)) :
    ∀ e ∈ answer ds, WithinEstimate cfg e := by
  intro e he
  rcases List.mem_append.mp he with he | he
  · obtain ⟨d, -, rfl⟩ := List.mem_map.mp he
    trivial
  · exact List.mem_singleton.mp he ▸ trivial

theorem successes_answer (s : Sender) (ds : List (List UInt8)) :
    s.successes cfg (answer ds) = [] := by
  refine List.eq_nil_iff_forall_not_mem.mpr fun e he => ?_
  refine (Sender.machine cfg).forall_flatten (P := fun _ => False) (fun s e' he' e he => ?_) s e he
  have hfails : ¬ s.Succeeds cfg e' := by
    rcases List.mem_append.mp he' with he' | he'
    · obtain ⟨d, -, rfl⟩ := List.mem_map.mp he'
      exact id
    · exact List.mem_singleton.mp he' ▸ id
  rw [if_neg hfails] at he
  exact absurd he List.not_mem_nil

end Sender

/-! ### What a bucket gets -/

namespace Receiver

variable {B : BufferSize} {S : Superframe} {src : UInt8} {h : List Fragment}

/-- What a bucket lacks is in the answer to its NACK, as far as it is retained
and the NACK has room. -/
theorem Collects.mem_answer {r : Receiver B} (hrep : r.Represented) (hc : r.Collects S src h)
    {f : Fragment} (hf : f ∈ S.fragments) (hlacks : f ∉ h)
    (hpacket : Fragment.ofPacket f.packet = some f)
    (hfew : ((r.bucketOf S.mSuperFrameNo).nackScan
      ((r.bucketOf S.mSuperFrameNo).mOfFragmentNo + 1) 0 none).length ≤ 255)
    {scfg : SenderConfig} {es : List SenderCall} {ds : List (List UInt8)}
    (hd : (r.bucketOf S.mSuperFrameNo).buildNack ∈ ds) {g : RetainedFragment}
    (hkey : ((Sender.machine scfg).run (Sender.new scfg) es).1.retention.mRetentionBuffer[
      makeRetentionKey S.mSuperFrameNo (UInt16.ofNat f.slot)]? = some g)
    (hdata : g.mData = f.packet) :
    ∃ p ∈ ((Sender.machine scfg).run ((Sender.machine scfg).run (Sender.new scfg) es).1
      (Sender.answer ds)).2, p.data = f.packet := by
  set b := r.bucketOf S.mSuperFrameNo
  have hbelongs : b.Belongs S := Bucket.belongs_core.mp (hc.built.belongs hc.subset)
  have hle : b.mOfFragmentNo ≤ 8191 := Nat.le_of_lt_succ (hrep.wellFormed _ hc.active).of_lt
  obtain ⟨rs, heq, hrs⟩ := b.nackScan_missing
  have hlength : rs.length ≤ 255 := by
    rw [heq, List.length_map] at hfew
    exact hfew
  have hmissing : b.Missing f.slot := (hc.built.missing_iff hc.subset hf).mpr hlacks
  obtain ⟨range, hrange, hslot⟩ := (hrs.covers _).mp hmissing
  -- the fragment is retained for its stream
  obtain ⟨f', hf', hsame⟩ := Sender.mStreamId_of_run es hkey
  have hgstream : g.mStreamId = b.mStreamId := by
    rw [hdata, hpacket, Option.some.injEq] at hf'
    rw [← hsame, ← hf', S.streamId f hf]
    exact hbelongs.mStreamId.symm
  refine ⟨g.packet, Sender.mem_answer hkey hd ?_, hdata⟩
  rw [Bucket.nackCalls_buildNack hle heq hrs, List.take_of_length_le hlength, hgstream,
    hbelongs.mSavedFrameNo]
  exact List.mem_map.mpr ⟨f.slot,
    List.mem_flatMap.mpr ⟨range, hrange, Range.mem_numbers.mpr hslot⟩, rfl⟩

end Receiver

/-! ### The session -/

namespace Network

variable {B : BufferSize} {scfg : SenderConfig} {rcfg : ReceiverConfig}

/-- A pass whose NACKs all get to the sender, and the answer to them. -/
def nackRound (rcfg : ReceiverConfig) (n : Network B) (ask : PassClock) : List NetworkEvent :=
  .pass ask ::
    (Sender.answer (Receiver.nacks (n.receiver.processTimeouts rcfg ask).2)).map .sender

theorem senderCalls_append (es es' : List NetworkEvent) :
    senderCalls (es ++ es') = senderCalls es ++ senderCalls es' := List.filterMap_append

theorem senderCalls_nackRound (n : Network B) (ask : PassClock) :
    senderCalls (nackRound rcfg n ask) =
      Sender.answer (Receiver.nacks (n.receiver.processTimeouts rcfg ask).2) := by
  rw [nackRound, senderCalls, List.filterMap_cons_none rfl, List.filterMap_map]
  exact List.filterMap_some

theorem notMem_nackRound (n : Network B) (ask : PassClock) (env : Surroundings) (k : ℕ)
    (src : UInt8) : .packet env k src ∉ nackRound rcfg n ask := by
  intro hmem
  rcases List.mem_cons.mp hmem with heq | hmem
  · cases heq
  · obtain ⟨e, -, heq⟩ := List.mem_map.mp hmem
    cases heq

theorem senderCalls_repaired (n : Network B) (ask : PassClock) {es later : List NetworkEvent}
    (hlater : senderCalls later = []) :
    senderCalls (es ++ (nackRound rcfg n ask ++ later)) =
      senderCalls es ++
        Sender.answer (Receiver.nacks (n.receiver.processTimeouts rcfg ask).2) := by
  rw [senderCalls_append, senderCalls_append, senderCalls_nackRound, hlater, List.append_nil]

theorem successes_repaired (n : Network B) (ask : PassClock) {es later : List NetworkEvent}
    (hlater : senderCalls later = []) :
    (Sender.new scfg).successes scfg (senderCalls (es ++ (nackRound rcfg n ask ++ later))) =
      (Sender.new scfg).successes scfg (senderCalls es) := by
  rw [senderCalls_repaired n ask hlater, Sender.successes, Machine.flatten_append]
  exact (congrArg _ (Sender.successes_answer _ _)).trans (List.append_nil _)

theorem ships_repaired (n : Network B) (ask : PassClock) {es later : List NetworkEvent}
    (hmode : scfg.mSubFragmentMode = .single)
    (hle : ∀ e ∈ senderCalls es, Sender.WithinEstimate scfg e)
    (hlater : senderCalls later = []) :
    Sender.Ships scfg 0 ((Sender.new scfg).successes scfg (senderCalls es))
      ((machine B scfg rcfg).run (new B scfg)
        (es ++ (nackRound rcfg n ask ++ later))).1.packets := by
  rw [← successes_repaired n ask hlater, (run_sender _ _).2]
  refine Sender.ships_single hmode fun e he => ?_
  rw [senderCalls_repaired n ask hlater] at he
  rcases List.mem_append.mp he with he | he
  · exact hle e he
  · exact Sender.withinEstimate_answer _ e he

theorem receiverCalls_append (n : Network B) (es es' : List NetworkEvent) :
    n.receiverCalls scfg rcfg (es ++ es') =
      n.receiverCalls scfg rcfg es ++
        ((machine B scfg rcfg).run n es).1.receiverCalls scfg rcfg es' :=
  Machine.flatten_append ..

/-- A fragment that has arrived is one of the superframe with its number. -/
theorem mem_of_handedOver {sends : List SenderCall} {packets : List Packet}
    (hships : Sender.Ships scfg 0 sends packets)
    (hspan : sends.length ≤ min (B.mask + 1) (2 ^ 15)) {cs : List Call} {aSourceId : UInt8}
    (hcs : ∀ c ∈ cs, HandsOver packets aSourceId c) {k : ℕ} {S : Superframe}
    (hS : Sender.Sent scfg 0 sends k S) {f : Fragment} (hf : f ∈ Receiver.handedOver cs)
    (hnumber : f.superFrameNo = UInt16.ofNat k) : f ∈ S.fragments := by
  obtain ⟨c, hc, hin⟩ := List.mem_flatMap.mp hf
  cases hcs c hc with
  | pass clk => exact absurd hin List.not_mem_nil
  | @packet env p halloc hp =>
      obtain ⟨k', S', hS', hcarried⟩ := hships.carried p hp
      have hmem := hcarried.fragmentsIn f hin
      rw [S'.superFrameNo f hmem, hS'.mSuperFrameNo, UInt16.zero_add] at hnumber
      obtain rfl : k' = k :=
        ofNat_inj (lt_of_lt_of_le hS'.lt hspan) (lt_of_lt_of_le hS.lt hspan) hnumber
      exact hS.unique hS' ▸ hmem

/-- The round finds a bucket for a superframe of which something has arrived and
something has not. -/
theorem collects_of_arrived {sends : List SenderCall} {packets : List Packet}
    (hships : Sender.Ships scfg 0 sends packets)
    (hspan : sends.length ≤ min (B.mask + 1) (2 ^ 15)) {cs : List Call} {aSourceId : UInt8}
    (hcs : ∀ c ∈ cs, HandsOver packets aSourceId c) {k : ℕ} {S : Superframe}
    (hS : Sender.Sent scfg 0 sends k S)
    (hunexpired : (Receiver.machine B rcfg).Along (Receiver.Unexpired rcfg (UInt16.ofNat k))
      (Receiver.fresh B) cs)
    (hstarted : ∃ f ∈ Receiver.handedOver cs, f.superFrameNo = UInt16.ofNat k)
    {f : Fragment} (hf : f ∈ S.fragments) (hnew : f ∉ Receiver.handedOver cs) :
    ∃ h, ((Receiver.machine B rcfg).run (Receiver.fresh B) cs).1.Collects S aSourceId h ∧
      f ∉ h := by
  have hnumber : UInt16.ofNat k = S.mSuperFrameNo :=
    (UInt16.zero_add _).symm.trans hS.mSuperFrameNo.symm
  have hinSpan : B.InSpan 0 S.mSuperFrameNo :=
    hnumber ▸ inSpan_ofNat (lt_of_lt_of_le hS.lt hspan)
  obtain ⟨g, hg, hgnumber⟩ := hstarted
  have hgS := mem_of_handedOver hships hspan hcs hS hg hgnumber
  rw [hnumber] at hunexpired
  have hfresh : (Receiver.fresh B).Pending S aSourceId [] :=
    .awaits ⟨rfl, rfl⟩ fun _ _ => List.not_mem_nil
  have hstage := hfresh.stage ⟨none, 0, Receiver.spanned_fresh⟩ hinSpan
    (fun c hc => (arrives hships hspan hS (hcs c hc)).1)
    (fun c hc => (arrives hships hspan hS (hcs c hc)).2) hunexpired
  rw [List.nil_append] at hstage
  rcases hstage with hpending | hall
  · cases hpending with
    | awaits huntouched hnone => exact absurd hg (hnone g hgS)
    | @collects h hcollects hsame => exact ⟨h, hcollects, fun hin => hnew ((hsame f hf).mp hin)⟩
  · exact absurd (hall f hf) hnew

/-- What the run before the round has left is what a round can make good. -/
structure Repairable (B : BufferSize) (scfg : SenderConfig) (rcfg : ReceiverConfig)
    (es : List NetworkEvent) (ask : PassClock) : Prop where
  /-- Something of each superframe has arrived. -/
  started : ∀ k < ((Sender.new scfg).successes scfg (senderCalls es)).length,
    ∃ f ∈ Receiver.handedOver ((new B scfg).receiverCalls scfg rcfg es),
      f.superFrameNo = UInt16.ofNat k
  /-- What has not arrived is still retained. -/
  retained : ∀ p ∈ ((machine B scfg rcfg).run (new B scfg) es).1.packets,
    ∀ f ∈ fragmentsIn p.data,
      f ∉ Receiver.handedOver ((new B scfg).receiverCalls scfg rcfg es) →
        ∃ g, ((machine B scfg rcfg).run (new B scfg) es).1.sender.retention.mRetentionBuffer[
          makeRetentionKey f.superFrameNo (UInt16.ofNat f.slot)]? = some g ∧ g.mData = f.packet
  /-- A bucket that lacks something is due for a NACK, and the NACK has room. -/
  asks : ∀ k < ((Sender.new scfg).successes scfg (senderCalls es)).length,
    let r := ((machine B scfg rcfg).run (new B scfg) es).1.receiver
    let b := r.bucketOf (UInt16.ofNat k)
    b.mActive = true → b.complete = false →
      r.nackDue rcfg ask (B.index (UInt16.ofNat k)) = true ∧
        (b.nackScan (b.mOfFragmentNo + 1) 0 none).length ≤ 255

/-- All fragments of the session are handed over before the round or after it. -/
theorem Repairable.covered {es later : List NetworkEvent} {ask : PassClock} {aSourceId : UInt8}
    (h : Repairable B scfg rcfg es ask) (hmode : scfg.mSubFragmentMode = .single)
    (hle : ∀ e ∈ senderCalls es, Sender.WithinEstimate scfg e)
    (hspan : ((Sender.new scfg).successes scfg (senderCalls es)).length ≤
      min (B.mask + 1) (2 ^ 15))
    (hcs : ∀ c ∈ (new B scfg).receiverCalls scfg rcfg es,
      HandsOver ((machine B scfg rcfg).run (new B scfg) es).1.packets aSourceId c)
    (hanswered : ∀ p ∈ ((Sender.machine scfg).run
        ((machine B scfg rcfg).run (new B scfg) es).1.sender (Sender.answer (Receiver.nacks
          (((machine B scfg rcfg).run (new B scfg) es).1.receiver.processTimeouts rcfg ask).2))).2,
      ∃ env, .packet env p.data aSourceId ∈ ((machine B scfg rcfg).run
        ((machine B scfg rcfg).run (new B scfg) es).1 (nackRound rcfg
          ((machine B scfg rcfg).run (new B scfg) es).1 ask)).1.receiverCalls scfg rcfg later)
    (hunexpired : ∀ k < ((Sender.new scfg).successes scfg (senderCalls es)).length,
      (Receiver.machine B rcfg).Along (Receiver.Unexpired rcfg (UInt16.ofNat k))
        (Receiver.fresh B) ((new B scfg).receiverCalls scfg rcfg es)) :
    Covered scfg ((Sender.new scfg).successes scfg (senderCalls es))
      ((new B scfg).receiverCalls scfg rcfg
        (es ++ (nackRound rcfg ((machine B scfg rcfg).run (new B scfg) es).1 ask ++ later))) := by
  set n := ((machine B scfg rcfg).run (new B scfg) es).1 with hn
  have hsender : n.sender = ((Sender.machine scfg).run (Sender.new scfg) (senderCalls es)).1 :=
    (run_sender _ es).1
  have hreceiver : n.receiver = ((Receiver.machine B rcfg).run (Receiver.fresh B)
      ((new B scfg).receiverCalls scfg rcfg es)).1 := (run_receiver _ es).1
  have hships : Sender.Ships scfg 0 ((Sender.new scfg).successes scfg (senderCalls es))
      n.packets := by
    rw [hn, (run_sender _ es).2]
    exact Sender.ships_single hmode hle
  have hrep : n.receiver.Represented := by
    rw [hreceiver]
    exact Receiver.represented_run Receiver.represented_fresh rcfg _
  intro k S hS f hf
  rw [receiverCalls_append, receiverCalls_append, Receiver.handedOver, List.flatMap_append,
    List.flatMap_append]
  by_cases harrived : f ∈ Receiver.handedOver ((new B scfg).receiverCalls scfg rcfg es)
  · exact List.mem_append_left _ harrived
  refine List.mem_append_right _ (List.mem_append_right _ ?_)
  obtain ⟨h', hc, hlacks⟩ := collects_of_arrived hships hspan hcs hS (hunexpired k hS.lt)
    (h.started k hS.lt) hf harrived
  rw [← hreceiver] at hc
  have hnumber : UInt16.ofNat k = S.mSuperFrameNo :=
    (UInt16.zero_add _).symm.trans hS.mSuperFrameNo.symm
  -- the fragment is in a packet, and retained
  obtain ⟨p, hp, hin⟩ := hships.covers k S hS f hf
  obtain ⟨g, hkey, hdata⟩ := h.retained p hp f hin harrived
  have hpacket := (mem_fragmentsIn.mp hin).2
  rw [S.superFrameNo f hf] at hkey
  -- its bucket asks for it
  have hincomplete : (n.receiver.bucketOf S.mSuperFrameNo).complete = false := by
    have hwf := Bucket.wellFormed_core.mpr (hrep.wellFormed _ hc.active)
    rw [← Bool.not_eq_true]
    exact fun hcomplete => hlacks ((hc.built.complete_iff hc.subset hwf).mp hcomplete f hf)
  obtain ⟨hdue, hfew⟩ := h.asks k hS.lt (hnumber ▸ hc.active) (hnumber ▸ hincomplete)
  rw [hnumber] at hdue hfew
  have hasked := hrep.mem_nacks hc.active hdue
  rw [← hn, hsender] at hkey
  obtain ⟨p', hp', hdata'⟩ :=
    hc.mem_answer hrep hf hlacks hpacket hfew hasked hkey hdata
  rw [← hsender] at hp'
  obtain ⟨env, hcall⟩ := hanswered p' hp'
  refine List.mem_flatMap.mpr ⟨_, hcall, ?_⟩
  show f ∈ fragmentsIn p'.data
  rw [hdata', fragmentsIn_of_ofPacket hpacket]
  exact List.mem_singleton_self f

/-- A session of a sender that does not bundle, over a network that may lose any
packet as long as something of each superframe arrives: if then one round of
NACKs gets through, and the answer arrives before the last pass, in any order and
with whatever else, the receiver has delivered what was sent, all of it and each
superframe once. -/
theorem session_repaired (B : BufferSize) (scfg : SenderConfig) (rcfg : ReceiverConfig)
    (es later : List NetworkEvent) (ask last : PassClock) (aSourceId : UInt8)
    (hmode : scfg.mSubFragmentMode = .single)
    (hle : ∀ e ∈ senderCalls es, Sender.WithinEstimate scfg e)
    (hspan : ((Sender.new scfg).successes scfg (senderCalls es)).length ≤
      min (B.mask + 1) (2 ^ 15))
    (hsource : ∀ env k src, .packet env k src ∈ es ++ later →
      src = aSourceId ∧ ∀ i, env.memalign i = true)
    (hrepairable : Repairable B scfg rcfg es ask)
    (hlater : senderCalls later = [])
    (hanswered :
      let n := ((machine B scfg rcfg).run (new B scfg) es).1
      ∀ p ∈ ((Sender.machine scfg).run n.sender
          (Sender.answer (Receiver.nacks (n.receiver.processTimeouts rcfg ask).2))).2,
        ∃ env, .packet env p.data aSourceId ∈
          ((machine B scfg rcfg).run n (nackRound rcfg n ask)).1.receiverCalls scfg rcfg later)
    (hunexpired :
      let n := ((machine B scfg rcfg).run (new B scfg) es).1
      ∀ k < ((Sender.new scfg).successes scfg (senderCalls es)).length,
        (Receiver.machine B rcfg).Along (Receiver.Unexpired rcfg (UInt16.ofNat k))
          (Receiver.fresh B) ((new B scfg).receiverCalls scfg rcfg
            (es ++ (nackRound rcfg n ask ++ later)) ++ [.pass last])) :
    let n := ((machine B scfg rcfg).run (new B scfg) es).1
    ∃ frames,
      ((Receiver.deliveries ((machine B scfg rcfg).run (new B scfg)
          (es ++ (nackRound rcfg n ask ++ later) ++ [.pass last])).2).map
        Delivery.frame).Perm frames ∧
      List.Forall₂ (fun frame e => ∃ clk aData args, e = .send clk aData args ∧
          SuperFrame.Restores frame aData args ∧ frame.mSourceId = aSourceId)
        frames ((Sender.new scfg).successes scfg (senderCalls es)) := by
  intro n
  have hships := @ships_repaired B scfg rcfg n ask es later hmode hle hlater
  have hsource' : ∀ env k src, .packet env k src ∈ es ++ (nackRound rcfg n ask ++ later) →
      src = aSourceId ∧ ∀ i, env.memalign i = true := by
    intro env k src hmem
    refine hsource env k src ?_
    rcases List.mem_append.mp hmem with hmem | hmem
    · exact List.mem_append_left _ hmem
    · rcases List.mem_append.mp hmem with hmem | hmem
      · exact absurd hmem (notMem_nackRound n ask env k src)
      · exact List.mem_append_right _ hmem
  have hcalls : (new B scfg).receiverCalls scfg rcfg
      (es ++ (nackRound rcfg n ask ++ later) ++ [.pass last]) =
        (new B scfg).receiverCalls scfg rcfg (es ++ (nackRound rcfg n ask ++ later)) ++
          [.pass last] := receiverCalls_append ..
  have hbefore : ∀ k < ((Sender.new scfg).successes scfg (senderCalls es)).length,
      (Receiver.machine B rcfg).Along (Receiver.Unexpired rcfg (UInt16.ofNat k))
        (Receiver.fresh B) ((new B scfg).receiverCalls scfg rcfg es) := by
    intro k hk
    have halong := hunexpired k hk
    rw [receiverCalls_append, List.append_assoc, Machine.along_append] at halong
    exact halong.1
  have hcovered := hrepairable.covered hmode hle hspan (handsOver_receiverCalls
    (fun env k src hmem => hsource env k src (List.mem_append_left _ hmem)) _) hanswered hbefore
  rw [(run_receiver _ _).2, hcalls]
  refine delivered_of_covered hships hspan (fun e he => ?_) (handsOver_receiverCalls hsource' _)
    hcovered hunexpired
  obtain ⟨clk, aData, args, rfl, h⟩ := Sender.sendable_of_mem_successes he
  exact ⟨clk, aData, args, rfl, h, hle _ (Sender.mem_of_mem_successes he) h⟩

/-- Of three packets only the last one arrives; the next superframe does. -/
def lossyRun : List NetworkEvent :=
  [.sender (.send (Sample.clockAt 0) (List.replicate 500 7) Sample.sendArgs),
    .packet Sample.env 2 0, .sender (Sample.sendAt 0 10), .packet Sample.env 3 0]

/-- 50 ms later a NACK is due. -/
def askClk : PassClock := { timeouts := 50000, nacks := 50000, nackDelay := fun _ => 50000 }

/-- The answer arrives, in the other order. -/
def answerRun : List NetworkEvent := [.packet Sample.env 5 0, .packet Sample.env 4 0]

theorem repairable_lossyRun : Repairable .default singleCfg {} lossyRun askClk where
  started := by
    decide +kernel
  retained := by
    have hretained : ∀ p ∈ ((machine .default singleCfg {}).run
        (new .default singleCfg) lossyRun).1.packets, ∀ f ∈ fragmentsIn p.data,
          (((machine .default singleCfg {}).run
            (new .default singleCfg) lossyRun).1.sender.retention.mRetentionBuffer[
              makeRetentionKey f.superFrameNo (UInt16.ofNat f.slot)]?).map RetainedFragment.mData =
            some f.packet := by
      decide +kernel
    intro p hp f hf _
    exact Option.map_eq_some_iff.mp (hretained p hp f hf)
  asks := by
    decide +kernel

theorem session_repaired_lossyRun :
    let n := ((machine .default singleCfg {}).run (new .default singleCfg) lossyRun).1
    ∃ frames,
      ((Receiver.deliveries ((machine .default singleCfg {}).run (new .default singleCfg)
          (lossyRun ++ (nackRound {} n askClk ++ answerRun) ++ [.pass askClk])).2).map
        Delivery.frame).Perm frames ∧
      List.Forall₂ (fun frame e => ∃ clk aData args, e = .send clk aData args ∧
          SuperFrame.Restores frame aData args ∧ frame.mSourceId = 0)
        frames ((Sender.new singleCfg).successes singleCfg (senderCalls lossyRun)) := by
  refine session_repaired .default singleCfg {} lossyRun answerRun askClk askClk 0 rfl ?_
    (by decide +kernel) ?_ repairable_lossyRun rfl ?_ (by decide +kernel)
  · intro e he
    simp only [senderCalls, lossyRun, List.filterMap_cons, List.filterMap_nil, List.mem_cons,
      List.not_mem_nil, or_false] at he
    rcases he with rfl | rfl
    · exact fun _ => by decide +kernel
    · exact fun _ => by decide +kernel
  · intro env k src hmem
    simp only [lossyRun, answerRun, List.cons_append, List.nil_append, List.mem_cons,
      List.not_mem_nil, or_false, NetworkEvent.packet.injEq, reduceCtorEq, false_or] at hmem
    rcases hmem with ⟨rfl, -, rfl⟩ | ⟨rfl, -, rfl⟩ | ⟨rfl, -, rfl⟩ | ⟨rfl, -, rfl⟩ <;>
      exact ⟨rfl, fun _ => rfl⟩
  · intro n p hp
    have hdata : ∀ p ∈ ((Sender.machine singleCfg).run n.sender (Sender.answer (Receiver.nacks
        (n.receiver.processTimeouts {} askClk).2))).2,
          (p.data, 0) ∈ (((machine .default singleCfg {}).run n
            (nackRound {} n askClk)).1.receiverCalls singleCfg {} answerRun).filterMap handed := by
      decide +kernel
    obtain ⟨c, hc, heq⟩ := List.mem_filterMap.mp (hdata p hp)
    cases c with
    | pass clk => cases heq
    | packet env aData src =>
        cases heq
        exact ⟨env, hc⟩

end Network

end ElasticFrame
