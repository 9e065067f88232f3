import ElasticFrame.Sender.Queue

/-!
What `processRetransmits` sends: the retained fragments whose requests can be
served, each of them once, in the order in which they were first asked for.
-/

namespace ElasticFrame

open Lib

/-! ### Statistics -/

/-- What `getStatistics` adds to the counters. -/
structure RetentionStatistics where
  mRetentionBufferFragments : UInt32
  mRetentionBufferBytes : ℕ
  mRetransmitQueueSize : UInt32

def Sender.getStatistics (s : Sender) : SenderStatistics × RetentionStatistics :=
  (s.mStatistics,
    { mRetentionBufferFragments := UInt32.ofNat s.retention.mRetentionBuffer.size
      mRetentionBufferBytes := s.retention.mRetentionBufferBytes
      mRetransmitQueueSize := UInt32.ofNat s.retention.mQueuedRetransmits.card })

namespace Retention

/-- The requests that can be served, with their fragments, in the order of
the queue. -/
def servable (s : Retention) : List (RetransmitRequest × RetainedFragment) :=
  s.mRetransmitQueue.filterMap fun r => (s.live r.mKey r.mGeneration).map fun f => (r, f)

theorem mem_servable {s : Retention} {r : RetransmitRequest} {f : RetainedFragment} :
    (r, f) ∈ s.servable ↔ r ∈ s.mRetransmitQueue ∧ s.live r.mKey r.mGeneration = some f := by
  rw [servable, List.mem_filterMap]
  constructor
  · rintro ⟨r', hr', hsome⟩
    obtain ⟨f', hlive, heq⟩ := Option.map_eq_some_iff.mp hsome
    cases heq
    exact ⟨hr', hlive⟩
  · rintro ⟨hr, hlive⟩
    exact ⟨r, hr, by rw [hlive]; rfl⟩

theorem Queued.servable_generations {s : Retention} (h : s.Queued) :
    s.servable.map (fun e => e.1.mGeneration) =
      (s.mRetransmitQueue.map RetransmitRequest.mGeneration).filter
        fun g => g ∈ s.mQueuedRetransmits := by
  have hmem : ∀ r ∈ s.mRetransmitQueue, r.mGeneration ∈ s.mQueuedRetransmits ↔
      (s.live r.mKey r.mGeneration).isSome := by
    intro r hr
    rw [h.queued]
    refine ⟨fun ⟨r', hr', hgen, hsome⟩ => ?_, fun hsome => ⟨r, hr, rfl, hsome⟩⟩
    rwa [List.inj_on_of_nodup_map h.nodup hr' hr hgen] at hsome
  rw [servable, List.map_filterMap, List.filter_map, ← List.filterMap_eq_filter,
    List.map_filterMap]
  apply List.filterMap_congr
  intro r hr
  cases hlive : s.live r.mKey r.mGeneration with
  | none =>
      have hnot : r.mGeneration ∉ s.mQueuedRetransmits := by
        rw [hmem r hr, hlive]
        exact Bool.false_ne_true
      simp [hnot]
  | some f =>
      have hin : r.mGeneration ∈ s.mQueuedRetransmits := by
        rw [hmem r hr, hlive]
        rfl
      simp [hin]

theorem Queued.nodup_servable {s : Retention} (h : s.Queued) :
    (s.servable.map fun e => e.1.mGeneration).Nodup := by
  rw [h.servable_generations]
  exact h.nodup.filter _

theorem Queued.length_servable {s : Retention} (h : s.Queued) :
    s.servable.length = s.mQueuedRetransmits.card := by
  rw [← List.length_map (f := fun e : RetransmitRequest × RetainedFragment => e.1.mGeneration),
    ← List.toFinset_card_of_nodup h.nodup_servable]
  congr 1
  apply Finset.ext
  intro g
  rw [List.mem_toFinset, h.servable_generations, List.mem_filter, decide_eq_true_iff]
  refine ⟨And.right, fun hg => ⟨?_, hg⟩⟩
  obtain ⟨r, hr, hgen, -⟩ := (h.queued g).mp hg
  exact List.mem_map.mpr ⟨r, hr, hgen⟩

theorem Queued.servable_take {s : Retention} (h : s.Queued) :
    s.servable = s.take.2.toList ++ s.take.1.servable := by
  cases hqueue : s.mRetransmitQueue with
  | nil =>
      have htake : s.take = (s, none) := by rw [Retention.take, hqueue]
      rw [htake]
      rfl
  | cons lRequest rest =>
      have hnodup := h.nodup
      rw [hqueue, List.map_cons, List.nodup_cons] at hnodup
      rw [take_cons hqueue, servable, hqueue]
      cases hlive : (s.pop lRequest rest).live lRequest.mKey lRequest.mGeneration with
      | none =>
          have hnone : s.live lRequest.mKey lRequest.mGeneration = none := hlive
          rw [List.filterMap_cons_none (by rw [hnone]; rfl)]
          rfl
      | some f =>
          have hsome : s.live lRequest.mKey lRequest.mGeneration = some f := hlive
          rw [List.filterMap_cons_some (by rw [hsome]; rfl)]
          refine congrArg ((lRequest, f) :: ·) ?_
          apply List.filterMap_congr
          intro r hr
          have hne : r.mGeneration ≠ lRequest.mGeneration :=
            fun heq => hnodup.1 (heq ▸ List.mem_map_of_mem hr)
          rw [live_retry hlive hne]
          rfl

end Retention

namespace Sender

/-- The packets of `processRetransmits` are those of the first requests that
can be served. -/
theorem retransmitLoop_packets (aMaxCount : ℕ) (queue : List RetransmitRequest) (lCount : ℕ)
    (s : Sender) (hqueue : s.retention.mRetransmitQueue = queue) (hq : s.retention.Queued) :
    (retransmitLoop aMaxCount queue lCount s).2 =
      (s.retention.servable.take (aMaxCount - lCount)).map fun e => e.2.packet := by
  induction queue generalizing lCount s with
  | nil =>
      rw [Retention.servable, hqueue, List.filterMap_nil, List.take_nil]
      rfl
  | cons lRequest rest ih =>
      by_cases hcount : lCount < aMaxCount
      · have hrest := mRetransmitQueue_take hqueue
        rw [retransmitLoop_cons hcount hqueue, hq.servable_take]
        cases htake : s.retention.take.2 with
        | none =>
            exact ih lCount { s with retention := s.retention.take.1 } hrest hq.take
        | some served =>
            have hnext := ih (lCount + 1)
              { s with retention := s.retention.take.1 }.countRetransmit hrest hq.take
            rw [show aMaxCount - lCount = (aMaxCount - (lCount + 1)) + 1 by omega]
            exact congrArg (served.2.packet :: ·) hnext
      · rw [retransmitLoop, if_neg hcount, Nat.sub_eq_zero_of_le (not_lt.mp hcount)]
        rfl

theorem processRetransmits_packets {s : Sender} (hq : s.retention.Queued) (aMaxCount : ℕ) :
    (s.processRetransmits aMaxCount).2 =
      (s.retention.servable.take aMaxCount).map fun e => e.2.packet :=
  retransmitLoop_packets aMaxCount s.retention.mRetransmitQueue 0 s rfl hq

theorem retransmitLoop_shift (a b : ℕ) (queue : List RetransmitRequest) (lCount : ℕ) (s : Sender) :
    retransmitLoop (a + b) queue (a + lCount) s = retransmitLoop b queue lCount s := by
  induction queue generalizing lCount s with
  | nil => rfl
  | cons lRequest rest ih =>
      have hlt : a + lCount < a + b ↔ lCount < b := Nat.add_lt_add_iff_left
      rw [retransmitLoop, retransmitLoop]
      simp only [hlt, ih, Nat.add_assoc]

/-- The loop goes on where a loop with a smaller limit has stopped. -/
theorem retransmitLoop_add (a b : ℕ) (queue : List RetransmitRequest) (lCount : ℕ) (hle : lCount ≤ a)
    (s : Sender) (hqueue : s.retention.mRetransmitQueue = queue) :
    retransmitLoop (a + b) queue lCount s =
      ((processRetransmits (retransmitLoop a queue lCount s).1 b).1,
        (retransmitLoop a queue lCount s).2 ++
          (processRetransmits (retransmitLoop a queue lCount s).1 b).2) := by
  induction queue generalizing lCount s with
  | nil =>
      have hend : processRetransmits (retransmitLoop a [] lCount s).1 b = (s, []) := by
        rw [processRetransmits, retransmitLoop, hqueue]
        rfl
      rw [hend]
      rfl
  | cons lRequest rest ih =>
      have hrest := mRetransmitQueue_take hqueue
      by_cases hcount : lCount < a
      · rw [retransmitLoop_cons (by omega) hqueue, retransmitLoop_cons hcount hqueue]
        cases htake : s.retention.take.2 with
        | none =>
            exact ih lCount (by omega) { s with retention := s.retention.take.1 } hrest
        | some served =>
            have hnext := ih (lCount + 1) hcount
              { s with retention := s.retention.take.1 }.countRetransmit hrest
            dsimp only
            rw [hnext]
            rfl
      · obtain rfl : lCount = a := by omega
        have hstop : retransmitLoop lCount (lRequest :: rest) lCount s = (s, []) := by
          rw [retransmitLoop, if_neg hcount]
        have hshift := retransmitLoop_shift lCount b (lRequest :: rest) 0 s
        rw [Nat.add_zero] at hshift
        rw [hstop, hshift, processRetransmits, hqueue]
        rfl

theorem processRetransmits_add (a b : ℕ) (s : Sender) :
    s.processRetransmits (a + b) =
      (((s.processRetransmits a).1.processRetransmits b).1,
        (s.processRetransmits a).2 ++ ((s.processRetransmits a).1.processRetransmits b).2) :=
  retransmitLoop_add a b s.retention.mRetransmitQueue 0 (Nat.zero_le a) s rfl

theorem key_mod_lt (cfg : SenderConfig) (es : List SenderCall) (mKey : UInt32)
    (f : RetainedFragment)
    (hf : ((Sender.machine cfg).run (Sender.new cfg) es).1.retention.mRetentionBuffer[mKey]? =
      some f) : mKey.toNat % 65536 < 8192 := by
  refine Retention.all_of_run cfg (P := fun mKey _ _ => mKey.toNat % 65536 < 8192) ?_ es
    mKey f hf
  intro s aData args h k data hk
  have hlt : k < (plan cfg aData.length).2.lTotalFragments := by
    rw [← length_fragments (s.planned cfg aData args) aData h.cuts.total]
    exact (List.getElem?_eq_some_iff.mp hk).1
  have htotal := h.total_le
  have hmax : maxFragmentsPerSuperframe = 8192 := rfl
  have h16 : UInt16.size = 65536 := rfl
  rw [toNat_makeRetentionKey, UInt16.toNat_ofNat_of_lt' (by omega : k < UInt16.size)]
  omega

/-- There are fewer retained fragments than the statistics can count. -/
theorem card_queued_lt (cfg : SenderConfig) (es : List SenderCall)
    (hq : ((Sender.machine cfg).run (Sender.new cfg) es).1.retention.Queued) :
    ((Sender.machine cfg).run (Sender.new cfg) es).1.retention.mQueuedRetransmits.card <
      2 ^ 32 := by
  have hkey := key_mod_lt cfg es
  generalize ((Sender.machine cfg).run (Sender.new cfg) es).1.retention = s at hq hkey ⊢
  -- the keys of the requests that can be served are distinct, and none is the largest
  have hnodup : (s.servable.map fun e => e.1.mKey.toNat).Nodup := by
    have hgens : s.servable.Pairwise fun a b => a.1.mGeneration ≠ b.1.mGeneration :=
      List.pairwise_map.mp hq.nodup_servable
    refine List.pairwise_map.mpr (hgens.imp_of_mem ?_)
    rintro ⟨r, f⟩ ⟨r', f'⟩ hmem hmem' hne hkeys
    obtain ⟨-, hlive⟩ := Retention.mem_servable.mp hmem
    obtain ⟨-, hlive'⟩ := Retention.mem_servable.mp hmem'
    obtain ⟨hmap, hgen⟩ := Retention.live_eq_some.mp hlive
    obtain ⟨hmap', hgen'⟩ := Retention.live_eq_some.mp hlive'
    rw [UInt32.toNat_inj.mp hkeys, hmap', Option.some.injEq] at hmap
    exact hne (hgen.symm.trans ((congrArg _ hmap.symm).trans hgen'))
  have hsub : (s.servable.map fun e => e.1.mKey.toNat) ⊆ List.range (2 ^ 32 - 1) := by
    intro n hn
    obtain ⟨⟨r, f⟩, hmem, rfl⟩ := List.mem_map.mp hn
    obtain ⟨-, hlive⟩ := Retention.mem_servable.mp hmem
    have hmod := hkey r.mKey f (Retention.live_eq_some.mp hlive).1
    have hlt := r.mKey.toNat_lt
    rw [List.mem_range]
    dsimp only
    omega
  have hle := hnodup.length_le_of_subset hsub
  rw [List.length_map, List.length_range, hq.length_servable] at hle
  omega

def sizeMax : ℕ := 2 ^ 64 - 1

/-- The queue and what `processRetransmits` makes of it, with the notes of
the NACKs that have not been answered. -/
structure ServesInOrder (s : Sender) (noted : List ℕ) : Prop where
  /-- The set is the requests whose key still has their generation. -/
  set : ∀ g, g ∈ s.retention.mQueuedRetransmits ↔
    ∃ r ∈ s.retention.mRetransmitQueue, r.mGeneration = g ∧
      ∃ f, s.retention.mRetentionBuffer[r.mKey]? = some f ∧ f.mGeneration = r.mGeneration
  nodup : (s.retention.mRetransmitQueue.map RetransmitRequest.mGeneration).Nodup
  count : (s.processRetransmits sizeMax).2.length =
    s.getStatistics.2.mRetransmitQueueSize.toNat
  /-- Retained fragments are sent, no two of one key, in the order in which
  the NACKs first asked for them. -/
  packets : ∃ served : List (UInt32 × RetainedFragment),
    (s.processRetransmits sizeMax).2 = served.map (fun e => e.2.packet) ∧
      (∀ e ∈ served, s.retention.mRetentionBuffer[e.1]? = some e.2) ∧
      (served.map Prod.fst).Nodup ∧
      served.map (fun e => e.2.mGeneration) =
        (noted.filter fun g => g ∈ s.retention.retained.map fun e => e.2.mGeneration).eraseDups
  split : ∀ a b, a + b ≤ sizeMax →
    s.processRetransmits (a + b) =
      (((s.processRetransmits a).1.processRetransmits b).1,
        (s.processRetransmits a).2 ++ ((s.processRetransmits a).1.processRetransmits b).2)

theorem servesInOrder {s : Sender} {noted : List ℕ} (hs : s.retention.Represented)
    (hq : s.retention.Queued) (h : s.retention.Noted noted)
    (hcard : s.retention.mQueuedRetransmits.card < 2 ^ 32) : ServesInOrder s noted := by
  have hall : (s.processRetransmits sizeMax).2 =
      s.retention.servable.map fun e => e.2.packet := by
    rw [processRetransmits_packets hq, List.take_of_length_le]
    rw [hq.length_servable]
    exact Nat.le_of_lt (lt_trans hcard (by decide))
  have hlive : ∀ e ∈ s.retention.servable,
      s.retention.mRetentionBuffer[e.1.mKey]? = some e.2 ∧ e.2.mGeneration = e.1.mGeneration :=
    fun e he => Retention.live_eq_some.mp (Retention.mem_servable.mp he).2
  refine ⟨fun g => ?_, hq.nodup, ?_, ?_, fun a b _ => processRetransmits_add a b s⟩
  · rw [hq.queued]
    exact exists_congr fun r => and_congr_right fun _ =>
      and_congr_right fun _ => Retention.isSome_live
  · rw [hall, List.length_map, hq.length_servable]
    exact (UInt32.toNat_ofNat_of_lt' hcard).symm
  · refine ⟨s.retention.servable.map fun e => (e.1.mKey, e.2), ?_, ?_, ?_, ?_⟩
    · rw [hall, List.map_map]
      rfl
    · intro e he
      obtain ⟨e, hmem, rfl⟩ := List.mem_map.mp he
      exact (hlive e hmem).1
    · rw [List.map_map]
      refine List.pairwise_map.mpr ((List.pairwise_map.mp hq.nodup_servable).imp_of_mem ?_)
      intro a b ha hb hne hkeys
      have hkeys : a.1.mKey = b.1.mKey := hkeys
      obtain ⟨hmap, hgen⟩ := hlive a ha
      obtain ⟨hmap', hgen'⟩ := hlive b hb
      rw [hkeys, hmap', Option.some.injEq] at hmap
      exact hne (hgen.symm.trans ((congrArg _ hmap.symm).trans hgen'))
    · have hgens : (s.retention.servable.map fun e => (e.1.mKey, e.2)).map
          (fun e => e.2.mGeneration) = s.retention.servable.map fun e => e.1.mGeneration := by
        rw [List.map_map]
        exact List.map_congr_left fun e he => (hlive e he).2
      rw [hgens, hq.servable_generations, h.order]
      congr 1
      apply List.filter_congr
      intro g hg
      -- a noted generation is in the set when its fragment is retained
      rw [decide_eq_decide, List.mem_map]
      constructor
      · intro hin
        obtain ⟨r, -, hgen, hsome⟩ := (hq.queued g).mp hin
        obtain ⟨f, hf, hfgen⟩ := Retention.isSome_live.mp hsome
        exact ⟨(r.mKey, f), hs.mem_retained.mpr hf, hfgen.trans hgen⟩
      · rintro ⟨⟨k, f⟩, hmem, hgen⟩
        exact h.queued g hg k f (hs.mem_retained.mp hmem) hgen

theorem queued_of_run (cfg : SenderConfig) (es : List SenderCall) :
    ((Sender.machine cfg).run (Sender.new cfg) es).1.retention.Represented ∧
      ((Sender.machine cfg).run (Sender.new cfg) es).1.retention.Queued ∧
      ((Sender.machine cfg).run (Sender.new cfg) es).1.retention.Noted
        (Retention.unanswered cfg {} ((Sender.new cfg).trace cfg es) []) := by
  rw [run_retention]
  obtain ⟨hq, hnoted⟩ := Retention.queued_after cfg Retention.represented_empty
    Retention.queued_empty Retention.noted_empty ((Sender.new cfg).trace cfg es)
  exact ⟨Retention.represented_empty.after cfg _, hq, hnoted⟩

/-- In every state a sender reaches, `processRetransmits` serves each request
for a retained fragment once, in the order of the NACKs. -/
theorem servesInOrder_of_run (cfg : SenderConfig) (es : List SenderCall) :
    ServesInOrder ((Sender.machine cfg).run (Sender.new cfg) es).1
      (Retention.unanswered cfg {} ((Sender.new cfg).trace cfg es) []) := by
  obtain ⟨hs, hq, hnoted⟩ := queued_of_run cfg es
  exact servesInOrder hs hq hnoted (card_queued_lt cfg es hq)

end Sender

end ElasticFrame
