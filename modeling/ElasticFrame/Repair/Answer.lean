import ElasticFrame.Repair.Message
import ElasticFrame.Sender.Retransmit

/-!
What a sender that has nothing else to send again answers to a NACK: the
fragments that are asked for, each of them once, in the order of the NACK.
-/

namespace ElasticFrame

open Lib Lib.Ranges

namespace Retention

variable {cfg : SenderConfig} {mStreamId : UInt8}

/-- Requests for fragments that are retained and not queued, no two of one key,
go to the end of the queue. -/
theorem after_requests {items : List (UInt32 × RetainedFragment)} {s : Retention}
    (hs : s.Represented) (hkeys : (items.map Prod.fst).Nodup)
    (hitems : ∀ e ∈ items, s.mRetentionBuffer[e.1]? = some e.2 ∧ e.2.mStreamId = mStreamId ∧
      e.2.mGeneration ∉ s.mQueuedRetransmits) :
    (s.after cfg (items.map fun e => .request e.1 mStreamId)).mRetentionBuffer =
        s.mRetentionBuffer ∧
      (s.after cfg (items.map fun e => .request e.1 mStreamId)).mRetransmitQueue =
        s.mRetransmitQueue ++
          items.map fun e => { mKey := e.1, mGeneration := e.2.mGeneration } := by
  induction items generalizing s with
  | nil => exact ⟨rfl, (List.append_nil _).symm⟩
  | cons e items ih =>
      obtain ⟨hnew, hkeys⟩ := List.nodup_cons.mp hkeys
      obtain ⟨hkey, hstream, hfree⟩ := hitems e List.mem_cons_self
      have hstep : ((machine cfg).step s (.request e.1 mStreamId)).1 =
          { s with
            mQueuedRetransmits := insert e.2.mGeneration s.mQueuedRetransmits
            mRetransmitQueue :=
              s.mRetransmitQueue ++ [{ mKey := e.1, mGeneration := e.2.mGeneration }] } := by
        simp only [machine, request, hkey]
        rw [if_pos ⟨hstream, hfree⟩]
      have hnext := (hs.step cfg (.request e.1 mStreamId)).1
      rw [hstep] at hnext
      have hrest := ih hnext hkeys fun e' he' => by
        obtain ⟨hkey', hstream', hfree'⟩ := hitems e' (List.mem_cons_of_mem _ he')
        refine ⟨hkey', hstream', fun hin => ?_⟩
        rcases Finset.mem_insert.mp hin with hgen | hin
        · have hsame := hs.key_unique hkey' hkey hgen
          exact hnew (hsame ▸ List.mem_map_of_mem he')
        · exact hfree' hin
      rw [List.map_cons, after_cons, hstep]
      refine ⟨hrest.1, hrest.2.trans ?_⟩
      rw [List.append_assoc]
      rfl

end Retention

namespace Sender

variable {cfg : SenderConfig}

theorem processRetransmits_receiveNack (es : List SenderCall) (aData : List UInt8)
    {mStreamId : UInt8} {items : List (UInt32 × RetainedFragment)}
    (hqueue : ((Sender.machine cfg).run (Sender.new cfg) es).1.retention.mRetransmitQueue = [])
    (hcalls : Retention.nackCalls (nackEntries aData) =
      items.map fun e => .request e.1 mStreamId)
    (hkeys : (items.map Prod.fst).Nodup)
    (hitems : ∀ e ∈ items,
      ((Sender.machine cfg).run (Sender.new cfg) es).1.retention.mRetentionBuffer[e.1]? =
        some e.2 ∧ e.2.mStreamId = mStreamId)
    {aMaxCount : ℕ} (hmax : items.length ≤ aMaxCount) :
    ((((Sender.machine cfg).run (Sender.new cfg) es).1.receiveNack aData).1.processRetransmits
      aMaxCount).2 = items.map fun e => e.2.packet := by
  have hrun : ((Sender.machine cfg).run (Sender.new cfg) (es ++ [.receiveNack aData])).1 =
      (((Sender.machine cfg).run (Sender.new cfg) es).1.receiveNack aData).1 :=
    Machine.run_concat ..
  have hasked := (queued_of_run cfg (es ++ [.receiveNack aData])).2.1
  rw [hrun] at hasked
  obtain ⟨hs, hq, -⟩ := queued_of_run cfg es
  set s := ((Sender.machine cfg).run (Sender.new cfg) es).1
  have hset : s.retention.mQueuedRetransmits = ∅ := by
    refine Finset.eq_empty_of_forall_notMem fun g hg => ?_
    obtain ⟨r, hr, -⟩ := (hq.queued g).mp hg
    rw [hqueue] at hr
    exact absurd hr List.not_mem_nil
  obtain ⟨hbuffer, hrequests⟩ := @Retention.after_requests cfg mStreamId items s.retention hs hkeys
    fun e he => ⟨(hitems e he).1, (hitems e he).2, hset ▸ Finset.notMem_empty _⟩
  rw [← hcalls, ← receiveNack_retention] at hbuffer hrequests
  rw [hqueue, List.nil_append] at hrequests
  have hservable : (s.receiveNack aData).1.retention.servable = items.map fun e =>
      ({ mKey := e.1, mGeneration := e.2.mGeneration }, e.2) := by
    rw [Retention.servable, hrequests, List.filterMap_map, ← List.filterMap_eq_map]
    refine List.filterMap_congr fun e he => ?_
    have hlive : (s.receiveNack aData).1.retention.live e.1 e.2.mGeneration = some e.2 :=
      Retention.live_eq_some.mpr ⟨hbuffer ▸ (hitems e he).1, rfl⟩
    simp only [Function.comp_apply, hlive, Option.map_some]
  rw [processRetransmits_packets hasked, hservable, List.take_of_length_le, List.map_map]
  · rfl
  · rwa [List.length_map]

end Sender

namespace Bucket

theorem nackCalls_buildNack {b : Bucket} {rs : List Range} (hof : b.mOfFragmentNo ≤ 8191)
    (heq : b.nackScan (b.mOfFragmentNo + 1) 0 none =
      rs.map fun r => b.nackEntry r.start r.more)
    (hrs : Coalesced 255 b.Missing rs) :
    Retention.nackCalls (Sender.nackEntries b.buildNack) =
      ((rs.take 255).flatMap Range.numbers).map fun k =>
        .request (makeRetentionKey b.mSavedFrameNo (UInt16.ofNat k)) b.mStreamId := by
  have hrange : ∀ r ∈ rs.take 255, (b.nackEntry r.start r.more).range = r ∧ r.last ≤ 65535 := by
    intro r hr
    have hmem := List.mem_of_mem_take hr
    have hlast := last_le_of_coalesced hrs hmem
    exact ⟨b.range_nackEntry (by omega) (hrs.more_le r hmem), by omega⟩
  rw [(nackEntries_buildNack hof heq hrs).1, Retention.nackCalls, List.takeWhile_eq_self_iff.mpr,
    List.flatMap_map, List.map_flatMap]
  · refine List.flatMap_congr fun r hr => ?_
    have hcount : (b.nackEntry r.start r.more).mFragmentCount.toNat = r.more :=
      congrArg Range.more (hrange r hr).1
    rw [Retention.rangeCalls, hcount, Range.numbers, List.range'_eq_map_range, List.map_map,
      List.range'_eq_map_range, List.map_map]
    refine List.map_congr_left fun lJ _ => ?_
    simp only [Function.comp_apply, Nat.zero_add]
    rw [UInt16.ofNat_add]
    rfl
  · intro e he
    obtain ⟨r, hr, rfl⟩ := List.mem_map.mp he
    obtain ⟨hsame, hlast⟩ := hrange r hr
    have hend : (b.nackEntry r.start r.more).mFragmentNo.toNat +
        (b.nackEntry r.start r.more).mFragmentCount.toNat = r.last := congrArg Range.last hsame
    rw [decide_eq_true_iff, hend]
    exact hlast

end Bucket

end ElasticFrame
