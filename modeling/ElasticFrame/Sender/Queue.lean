import ElasticFrame.Sender.Retained
import ElasticFrame.Lib.FirstOccurrence

/-!
The queue of requests and the set that keeps a fragment from being queued
twice. The set is exactly the generations whose requests can still be
served; requests of fragments that are gone stay in the queue until they
come to its front.

A generation that has left the set does not come back to life, so a request
is never queued behind a stale one of the same generation.
-/

namespace ElasticFrame

open Lib

namespace Retention

variable {cfg : SenderConfig}

structure Queued (s : Retention) : Prop where
  queued : ∀ g, g ∈ s.mQueuedRetransmits ↔
    ∃ r ∈ s.mRetransmitQueue, r.mGeneration = g ∧ (s.live r.mKey r.mGeneration).isSome
  nodup : (s.mRetransmitQueue.map RetransmitRequest.mGeneration).Nodup
  issued : ∀ r ∈ s.mRetransmitQueue, r.mGeneration ≤ s.mRetentionGeneration
  keyed : ∀ r ∈ s.mRetransmitQueue, ∀ k f, s.mRetentionBuffer[k]? = some f →
    f.mGeneration = r.mGeneration → k = r.mKey

theorem queued_empty : ({} : Retention).Queued := by
  refine ⟨fun g => ?_, .nil, fun r hr => absurd hr List.not_mem_nil,
    fun r hr => absurd hr List.not_mem_nil⟩
  simp

theorem isSome_live {s : Retention} {mKey : UInt32} {mGeneration : ℕ} :
    (s.live mKey mGeneration).isSome ↔
      ∃ f, s.mRetentionBuffer[mKey]? = some f ∧ f.mGeneration = mGeneration := by
  rw [Option.isSome_iff_exists]
  exact exists_congr fun f => live_eq_some

/-- A key is given up: its fragment is evicted or replaced, and its request
leaves the set. -/
theorem Queued.giveUp {s s' : Retention} (h : s.Queued) {mKey : UInt32} {f : RetainedFragment}
    (hkey : s.mRetentionBuffer[mKey]? = some f)
    (hqueue : s'.mRetransmitQueue = s.mRetransmitQueue)
    (hset : s'.mQueuedRetransmits = s.mQueuedRetransmits.erase f.mGeneration)
    (hlive : ∀ r ∈ s.mRetransmitQueue, s'.live r.mKey r.mGeneration =
      if r.mKey = mKey then none else s.live r.mKey r.mGeneration) (g : ℕ) :
    g ∈ s'.mQueuedRetransmits ↔
      ∃ r ∈ s'.mRetransmitQueue, r.mGeneration = g ∧ (s'.live r.mKey r.mGeneration).isSome := by
  rw [hset, hqueue, Finset.mem_erase, h.queued]
  constructor
  · rintro ⟨hne, r, hr, rfl, hsome⟩
    refine ⟨r, hr, rfl, ?_⟩
    have hother : r.mKey ≠ mKey := by
      rintro rfl
      obtain ⟨f', hf', hgen⟩ := isSome_live.mp hsome
      rw [hkey, Option.some.injEq] at hf'
      exact hne (by rw [← hgen, hf'])
    rw [hlive r hr, if_neg hother]
    exact hsome
  · rintro ⟨r, hr, rfl, hsome⟩
    rw [hlive r hr] at hsome
    split_ifs at hsome with hother
    · cases hsome
    · exact ⟨fun heq => hother (h.keyed r hr mKey f hkey heq.symm).symm, r, hr, rfl, hsome⟩

/-- An eviction takes requests from the set, and nothing else from what the
queue sees. -/
structure EvictsRequests (s s' : Retention) : Prop where
  queued : s'.Queued
  queue : s'.mRetransmitQueue = s.mRetransmitQueue
  generation : s'.mRetentionGeneration = s.mRetentionGeneration
  set : s'.mQueuedRetransmits ⊆ s.mQueuedRetransmits
  buffer : ∀ (k : UInt32) (f : RetainedFragment),
    s'.mRetentionBuffer[k]? = some f → s.mRetentionBuffer[k]? = some f

theorem Queued.evictOne {s : Retention} (h : s.Queued) {lOldest : RetentionOrderEntry}
    {f : RetainedFragment} (hlive : s.live lOldest.mKey lOldest.mGeneration = some f) :
    EvictsRequests s (s.evictOne lOldest f) := by
  obtain ⟨hkey, hgen⟩ := live_eq_some.mp hlive
  have hbuffer : ∀ k, (s.evictOne lOldest f).mRetentionBuffer[k]? =
      if lOldest.mKey = k then none else s.mRetentionBuffer[k]? :=
    fun k => TreeMap.getElem?_erase _ _ _
  have hsub : ∀ (k : UInt32) (f' : RetainedFragment), (s.evictOne lOldest f).mRetentionBuffer[k]? = some f' →
      s.mRetentionBuffer[k]? = some f' := by
    intro k f' hk
    rw [hbuffer] at hk
    split_ifs at hk
    exact hk
  have hset : (s.evictOne lOldest f).mQueuedRetransmits =
      s.mQueuedRetransmits.erase f.mGeneration := by
    rw [hgen]
    rfl
  refine ⟨⟨h.giveUp hkey rfl hset fun r _ => ?_, h.nodup, h.issued,
    fun r hr k f' hk => h.keyed r hr k f' (hsub k f' hk)⟩, rfl, rfl, Finset.erase_subset _ _, hsub⟩
  rw [live, live, hbuffer]
  by_cases hk : lOldest.mKey = r.mKey
  · rw [if_pos hk, if_pos hk.symm]
  · rw [if_neg hk, if_neg (Ne.symm hk)]

theorem EvictsRequests.trans {s s' s'' : Retention} (h : EvictsRequests s s')
    (h' : EvictsRequests s' s'') : EvictsRequests s s'' where
  queued := h'.queued
  queue := h'.queue.trans h.queue
  generation := h'.generation.trans h.generation
  set := h'.set.trans h.set
  buffer k f hk := h.buffer k f (h'.buffer k f hk)

theorem Queued.evictLoop (lCutoffUs : ℤ) (aRequiredBytes : ℕ) (order : List RetentionOrderEntry)
    {s : Retention} (h : s.Queued) :
    EvictsRequests s (evictLoop cfg lCutoffUs aRequiredBytes order s) := by
  induction order generalizing s with
  | nil => exact ⟨⟨h.queued, h.nodup, h.issued, h.keyed⟩, rfl, rfl, subset_rfl, fun _ _ => id⟩
  | cons lOldest rest ih =>
      cases hlive : s.live lOldest.mKey lOldest.mGeneration with
      | none =>
          rw [Retention.evictLoop, hlive]
          exact ih h
      | some f =>
          rw [Retention.evictLoop, hlive]
          dsimp only
          split_ifs
          · exact ⟨⟨h.queued, h.nodup, h.issued, h.keyed⟩, rfl, rfl, subset_rfl, fun _ _ => id⟩
          · exact (h.evictOne hlive).trans (ih (h.evictOne hlive).queued)

theorem Queued.evictOldRetention {s : Retention} (h : s.Queued) (cfg : SenderConfig) (lNow : ℤ)
    (aRequiredBytes : ℕ) : EvictsRequests s (s.evictOldRetention cfg lNow aRequiredBytes) :=
  h.evictLoop _ aRequiredBytes s.mRetentionOrder

/-- A new fragment takes the request for its predecessor from the set. -/
theorem Queued.place {s : Retention} (h : s.Queued) (lKey : UInt32) {f : RetainedFragment}
    (hf : f.mGeneration = s.mRetentionGeneration + 1) :
    (s.place lKey f).Queued ∧ (s.place lKey f).mQueuedRetransmits ⊆ s.mQueuedRetransmits := by
  have hbuffer : ∀ k, (s.place lKey f).mRetentionBuffer[k]? =
      if lKey = k then some f else s.mRetentionBuffer[k]? :=
    fun k => TreeMap.getElem?_insert _ _ _ _
  have hgen : ∀ r ∈ s.mRetransmitQueue, f.mGeneration ≠ r.mGeneration := by
    intro r hr
    have hissued := h.issued r hr
    omega
  have hlive : ∀ r ∈ s.mRetransmitQueue, (s.place lKey f).live r.mKey r.mGeneration =
      if r.mKey = lKey then none else s.live r.mKey r.mGeneration := by
    intro r hr
    rw [live, live, hbuffer]
    by_cases hk : lKey = r.mKey
    · rw [if_pos hk, if_pos hk.symm]
      exact if_neg (hgen r hr)
    · rw [if_neg hk, if_neg (Ne.symm hk)]
  have hkeyed : ∀ r ∈ s.mRetransmitQueue, ∀ k f', (s.place lKey f).mRetentionBuffer[k]? = some f' →
      f'.mGeneration = r.mGeneration → k = r.mKey := by
    intro r hr k f' hk hgen'
    rw [hbuffer] at hk
    split_ifs at hk
    · rw [Option.some.injEq] at hk
      rw [← hk] at hgen'
      exact absurd hgen' (hgen r hr)
    · exact h.keyed r hr k f' hk hgen'
  have hissued : ∀ r ∈ s.mRetransmitQueue, r.mGeneration ≤ f.mGeneration := by
    intro r hr
    have hle := h.issued r hr
    omega
  cases hexisting : s.mRetentionBuffer[lKey]? with
  | none =>
      have hset : (s.place lKey f).mQueuedRetransmits = s.mQueuedRetransmits := by
        simp only [Retention.place, hexisting]
      refine ⟨⟨fun g => ?_, h.nodup, hissued, hkeyed⟩, hset.subset⟩
      rw [hset, h.queued]
      apply exists_congr
      intro r
      refine and_congr_right fun hr => and_congr_right fun _ => ?_
      rw [hlive r hr]
      split_ifs with hk
      · rw [isSome_live, hk, hexisting]
        simp
      · exact Iff.rfl
  | some lExisting =>
      have hset : (s.place lKey f).mQueuedRetransmits =
          s.mQueuedRetransmits.erase lExisting.mGeneration := by
        simp only [Retention.place, hexisting]
      refine ⟨⟨h.giveUp hexisting rfl hset hlive, h.nodup, hissued, hkeyed⟩, ?_⟩
      rw [hset]
      exact Finset.erase_subset _ _

theorem Queued.enqueue {s : Retention} (h : s.Queued) (hs : s.Represented) {lKey : UInt32}
    {f : RetainedFragment} (hkey : s.mRetentionBuffer[lKey]? = some f)
    (hnew : f.mGeneration ∉ s.mQueuedRetransmits) :
    f.mGeneration ∉ s.mRetransmitQueue.map RetransmitRequest.mGeneration ∧
      Queued
        { s with
          mQueuedRetransmits := insert f.mGeneration s.mQueuedRetransmits
          mRetransmitQueue :=
            s.mRetransmitQueue ++ [{ mKey := lKey, mGeneration := f.mGeneration }] } := by
  have hfresh : f.mGeneration ∉ s.mRetransmitQueue.map RetransmitRequest.mGeneration := by
    intro hmem
    obtain ⟨r, hr, hgen⟩ := List.mem_map.mp hmem
    have hk := h.keyed r hr lKey f hkey hgen.symm
    exact hnew ((h.queued _).mpr ⟨r, hr, hgen, isSome_live.mpr ⟨f, hk ▸ hkey, hgen.symm⟩⟩)
  refine ⟨hfresh, ⟨fun g => ?_, ?_, fun r hr => ?_, fun r hr k f' hk hgen => ?_⟩⟩
  · dsimp only
    rw [Finset.mem_insert, h.queued]
    constructor
    · rintro (rfl | ⟨r, hr, hg, hsome⟩)
      · exact ⟨_, List.mem_append_right _ List.mem_cons_self, rfl,
          isSome_live.mpr ⟨f, hkey, rfl⟩⟩
      · exact ⟨r, List.mem_append_left _ hr, hg, hsome⟩
    · rintro ⟨r, hr, hg, hsome⟩
      rcases List.mem_append.mp hr with hr | hr
      · exact .inr ⟨r, hr, hg, hsome⟩
      · rw [List.mem_singleton.mp hr] at hg
        exact .inl hg.symm
  · rw [List.map_append, List.map_singleton]
    exact List.nodup_append.mpr ⟨h.nodup, List.nodup_singleton _, fun a ha b hb => by
      rw [List.mem_singleton.mp hb]
      rintro rfl
      exact hfresh ha⟩
  · rcases List.mem_append.mp hr with hr | hr
    · exact h.issued r hr
    · rw [List.mem_singleton.mp hr]
      exact hs.issued _ (hs.recorded lKey f hkey)
  · rcases List.mem_append.mp hr with hr | hr
    · exact h.keyed r hr k f' hk hgen
    · rw [List.mem_singleton.mp hr] at hgen ⊢
      exact hs.key_unique hk hkey hgen

theorem Queued.pop {s : Retention} (h : s.Queued) {lRequest : RetransmitRequest}
    {rest : List RetransmitRequest} (hqueue : s.mRetransmitQueue = lRequest :: rest) :
    (s.pop lRequest rest).Queued := by
  have hnodup := h.nodup
  rw [hqueue, List.map_cons, List.nodup_cons] at hnodup
  have hmem : ∀ r ∈ rest, r ∈ s.mRetransmitQueue := fun r hr => by
    rw [hqueue]
    exact List.mem_cons_of_mem _ hr
  refine ⟨fun g => ?_, hnodup.2, fun r hr => h.issued r (hmem r hr),
    fun r hr => h.keyed r (hmem r hr)⟩
  change g ∈ s.mQueuedRetransmits.erase lRequest.mGeneration ↔
    ∃ r ∈ rest, r.mGeneration = g ∧ (s.live r.mKey r.mGeneration).isSome
  rw [Finset.mem_erase, h.queued, hqueue]
  constructor
  · rintro ⟨hne, r, hr, rfl, hsome⟩
    rcases List.mem_cons.mp hr with rfl | hr
    · exact absurd rfl hne
    · exact ⟨r, hr, rfl, hsome⟩
  · rintro ⟨r, hr, rfl, hsome⟩
    refine ⟨?_, r, List.mem_cons_of_mem _ hr, rfl, hsome⟩
    intro heq
    exact hnodup.1 (heq ▸ List.mem_map_of_mem hr)

theorem live_retry {s : Retention} {lRequest : RetransmitRequest} {f : RetainedFragment}
    (hlive : s.live lRequest.mKey lRequest.mGeneration = some f) {mKey : UInt32}
    {mGeneration : ℕ} (hne : mGeneration ≠ lRequest.mGeneration) :
    (s.retry lRequest f).live mKey mGeneration = s.live mKey mGeneration := by
  obtain ⟨hkey, hgen⟩ := live_eq_some.mp hlive
  have hbuffer : (s.retry lRequest f).mRetentionBuffer[mKey]? =
      if lRequest.mKey = mKey then some (retried f) else s.mRetentionBuffer[mKey]? :=
    TreeMap.getElem?_insert _ _ _ _
  rw [live, live, hbuffer]
  by_cases hk : lRequest.mKey = mKey
  · rw [if_pos hk, ← hk, hkey]
    dsimp only
    have hf : ¬ f.mGeneration = mGeneration := fun heq => hne (heq.symm.trans hgen)
    rw [if_neg hf]
    exact if_neg hf
  · rw [if_neg hk]

theorem Queued.retry {s : Retention} (h : s.Queued) {lRequest : RetransmitRequest}
    {f : RetainedFragment} (hlive : s.live lRequest.mKey lRequest.mGeneration = some f)
    (hother : lRequest.mGeneration ∉ s.mRetransmitQueue.map RetransmitRequest.mGeneration) :
    (s.retry lRequest f).Queued := by
  obtain ⟨hkey, hgen⟩ := live_eq_some.mp hlive
  refine ⟨fun g => ?_, h.nodup, h.issued, fun r hr k f' hk hgen' => ?_⟩
  · change g ∈ s.mQueuedRetransmits ↔ ∃ r ∈ s.mRetransmitQueue, _
    rw [h.queued]
    apply exists_congr
    intro r
    refine and_congr_right fun hr => and_congr_right fun _ => ?_
    have hne : r.mGeneration ≠ lRequest.mGeneration :=
      fun heq => hother (heq ▸ List.mem_map_of_mem hr)
    rw [live_retry hlive hne]
  · have hbuffer : (s.retry lRequest f).mRetentionBuffer[k]? =
        if lRequest.mKey = k then some (retried f) else s.mRetentionBuffer[k]? :=
      TreeMap.getElem?_insert _ _ _ _
    rw [hbuffer] at hk
    split_ifs at hk with hkk
    · rw [Option.some.injEq] at hk
      rw [← hk] at hgen'
      rw [← hkk]
      exact h.keyed r hr _ f hkey hgen'
    · exact h.keyed r hr k f' hk hgen'

theorem Queued.take {s : Retention} (h : s.Queued) : s.take.1.Queued := by
  cases hqueue : s.mRetransmitQueue with
  | nil =>
      rw [Retention.take, hqueue]
      exact h
  | cons lRequest rest =>
      have hpop := h.pop hqueue
      rw [take_cons hqueue]
      cases hlive : (s.pop lRequest rest).live lRequest.mKey lRequest.mGeneration with
      | none => exact hpop
      | some f =>
          refine hpop.retry hlive ?_
          have hnodup := h.nodup
          rw [hqueue, List.map_cons, List.nodup_cons] at hnodup
          exact hnodup.1

/-! ### The order of the requests -/

/-- A note of every NACK for a retained fragment that has not been answered
since, by generation. -/
def note (s : Retention) : StoreCall → List ℕ → List ℕ
  | .request lKey mStreamId, noted =>
      match s.mRetentionBuffer[lKey]? with
      | none => noted
      | some f => if f.mStreamId = mStreamId then noted ++ [f.mGeneration] else noted
  | .take, noted =>
      match s.take.2 with
      | none => noted
      | some served => noted.filter fun g => g ≠ served.1.mGeneration
  | .evict .., noted => noted
  | .retain .., noted => noted

/-- The NACKs that are still to be answered after the calls, oldest first. -/
def unanswered (cfg : SenderConfig) : Retention → List StoreCall → List ℕ → List ℕ
  | _, [], noted => noted
  | s, call :: calls, noted =>
      unanswered cfg ((machine cfg).step s call).1 calls (s.note call noted)

/-- The requests that can be served lie in the order of their notes. -/
structure Noted (s : Retention) (noted : List ℕ) : Prop where
  order : (s.mRetransmitQueue.map RetransmitRequest.mGeneration).filter
      (fun g => g ∈ s.mQueuedRetransmits) =
    (noted.filter fun g => g ∈ s.mQueuedRetransmits).eraseDups
  queued : ∀ g ∈ noted, ∀ (k : UInt32) (f : RetainedFragment),
    s.mRetentionBuffer[k]? = some f → f.mGeneration = g → g ∈ s.mQueuedRetransmits
  issued : ∀ g ∈ noted, g ≤ s.mRetentionGeneration

theorem Noted.mem {s : Retention} {noted : List ℕ} (h : Noted s noted) (hq : s.Queued) {g : ℕ}
    (hg : g ∈ s.mQueuedRetransmits) : g ∈ noted := by
  obtain ⟨r, hr, hgen, -⟩ := (hq.queued g).mp hg
  have hmem : g ∈ (s.mRetransmitQueue.map RetransmitRequest.mGeneration).filter
      (fun g => g ∈ s.mQueuedRetransmits) :=
    List.mem_filter.mpr ⟨List.mem_map.mpr ⟨r, hr, hgen⟩, decide_eq_true hg⟩
  rw [h.order, List.mem_eraseDups] at hmem
  exact List.mem_of_mem_filter hmem

theorem order_of_subset {gens noted : List ℕ} {set set' : Finset ℕ} (hsub : set' ⊆ set)
    (h : gens.filter (fun g => g ∈ set) = (noted.filter fun g => g ∈ set).eraseDups) :
    gens.filter (fun g => g ∈ set') = (noted.filter fun g => g ∈ set').eraseDups := by
  have hboth : ∀ l : List ℕ, l.filter (fun g => g ∈ set') =
      (l.filter fun g => g ∈ set).filter fun g => g ∈ set' := by
    intro l
    rw [List.filter_filter]
    apply List.filter_congr
    intro g _
    by_cases hg : g ∈ set'
    · simp [hg, hsub hg]
    · simp [hg]
  rw [hboth gens, h, ← FirstOccurrence.eraseDups_filter, ← hboth]

theorem Noted.evicted {s s' : Retention} {noted : List ℕ} (h : Noted s noted)
    (hq : s.Queued) (he : EvictsRequests s s') : Noted s' noted := by
  refine ⟨?_, fun g hg k f hk hgen => ?_, fun g hg => ?_⟩
  · rw [he.queue]
    exact order_of_subset he.set h.order
  · obtain ⟨r, hr, hrg, -⟩ := (hq.queued g).mp (h.queued g hg k f (he.buffer k f hk) hgen)
    rw [← he.queue] at hr
    refine (he.queued.queued g).mpr ⟨r, hr, hrg, isSome_live.mpr ⟨f, ?_, hgen.trans hrg.symm⟩⟩
    rw [← he.queued.keyed r hr k f hk (hgen.trans hrg.symm)]
    exact hk
  · rw [he.generation]
    exact h.issued g hg

theorem Noted.place {s : Retention} {noted : List ℕ} (h : Noted s noted) (hq : s.Queued)
    (lKey : UInt32) {f : RetainedFragment} (hf : f.mGeneration = s.mRetentionGeneration + 1) :
    Noted (s.place lKey f) noted := by
  obtain ⟨hq', hsub⟩ := hq.place lKey hf
  refine ⟨order_of_subset hsub h.order, fun g hg k f' hk hgen => ?_, fun g hg => ?_⟩
  · have hissued := h.issued g hg
    have hbuffer : (s.place lKey f).mRetentionBuffer[k]? =
        if lKey = k then some f else s.mRetentionBuffer[k]? := TreeMap.getElem?_insert _ _ _ _
    have hold := hk
    rw [hbuffer] at hold
    split_ifs at hold with hkk
    · rw [Option.some.injEq] at hold
      rw [← hold] at hgen
      omega
    · obtain ⟨r, hr, hrg, -⟩ := (hq.queued g).mp (h.queued g hg k f' hold hgen)
      have hkr := hq'.keyed r hr k f' hk (hgen.trans hrg.symm)
      exact (hq'.queued g).mpr ⟨r, hr, hrg, isSome_live.mpr ⟨f', hkr ▸ hk, hgen.trans hrg.symm⟩⟩
  · have hissued := h.issued g hg
    change g ≤ f.mGeneration
    omega

/-- A fragment that is queued and requested again keeps its place. -/
theorem Noted.again {s : Retention} {noted : List ℕ} (h : Noted s noted) (hq : s.Queued) {g : ℕ}
    (hg : g ∈ s.mQueuedRetransmits) : Noted s (noted ++ [g]) := by
  have hmem : g ∈ noted.filter fun g => g ∈ s.mQueuedRetransmits :=
    List.mem_filter.mpr ⟨h.mem hq hg, decide_eq_true hg⟩
  have hlast : ([g].filter fun g => g ∈ s.mQueuedRetransmits) = [g] := by simp [hg]
  refine ⟨?_, fun g' hg' => ?_, fun g' hg' => ?_⟩
  · rw [List.filter_append, hlast, FirstOccurrence.eraseDups_concat, if_pos hmem, h.order]
  · rcases List.mem_append.mp hg' with hg' | hg'
    · exact h.queued g' hg'
    · rw [List.mem_singleton.mp hg']
      exact fun _ _ _ _ => hg
  · rcases List.mem_append.mp hg' with hg' | hg'
    · exact h.issued g' hg'
    · rw [List.mem_singleton.mp hg']
      exact h.issued g (h.mem hq hg)

theorem Noted.enqueue {s : Retention} {noted : List ℕ} (h : Noted s noted) (hs : s.Represented)
    {lKey : UInt32} {f : RetainedFragment} (hkey : s.mRetentionBuffer[lKey]? = some f)
    (hnew : f.mGeneration ∉ s.mQueuedRetransmits)
    (hfresh : f.mGeneration ∉ s.mRetransmitQueue.map RetransmitRequest.mGeneration) :
    Noted
      { s with
        mQueuedRetransmits := insert f.mGeneration s.mQueuedRetransmits
        mRetransmitQueue :=
          s.mRetransmitQueue ++ [{ mKey := lKey, mGeneration := f.mGeneration }] }
      (noted ++ [f.mGeneration]) := by
  have hnot : f.mGeneration ∉ noted := fun hmem => hnew (h.queued _ hmem lKey f hkey rfl)
  -- among the generations there already are, the set is what it was
  have hsame : ∀ l : List ℕ, f.mGeneration ∉ l →
      l.filter (fun g => g ∈ insert f.mGeneration s.mQueuedRetransmits) =
        l.filter fun g => g ∈ s.mQueuedRetransmits := by
    intro l hl
    apply List.filter_congr
    intro g hg
    have hne : g ≠ f.mGeneration := fun heq => hl (heq ▸ hg)
    simp [hne]
  have hlast : ([f.mGeneration].filter fun g =>
      g ∈ insert f.mGeneration s.mQueuedRetransmits) = [f.mGeneration] := by simp
  refine ⟨?_, fun g hg k f' hk hgen => ?_, fun g hg => ?_⟩
  · dsimp only
    rw [List.map_append, List.map_singleton, List.filter_append, List.filter_append, hlast,
      hsame _ hfresh, hsame _ hnot, FirstOccurrence.eraseDups_concat,
      if_neg fun hmem => hnot (List.mem_of_mem_filter hmem), h.order]
  · dsimp only
    rw [Finset.mem_insert]
    rcases List.mem_append.mp hg with hg | hg
    · exact .inr (h.queued g hg k f' hk hgen)
    · exact .inl (List.mem_singleton.mp hg)
  · rcases List.mem_append.mp hg with hg | hg
    · exact h.issued g hg
    · rw [List.mem_singleton.mp hg]
      exact hs.issued _ (hs.recorded lKey f hkey)

theorem order_pop {s : Retention} {noted : List ℕ} (h : Noted s noted)
    {lRequest : RetransmitRequest} {rest : List RetransmitRequest}
    (hqueue : s.mRetransmitQueue = lRequest :: rest) :
    (rest.map RetransmitRequest.mGeneration).filter
        (fun g => g ∈ s.mQueuedRetransmits.erase lRequest.mGeneration) =
      (noted.filter fun g => g ∈ s.mQueuedRetransmits.erase lRequest.mGeneration).eraseDups := by
  have horder := order_of_subset (Finset.erase_subset lRequest.mGeneration _) h.order
  rw [hqueue, List.map_cons, List.filter_cons_of_neg (by simp)] at horder
  exact horder

theorem Noted.drop {s : Retention} {noted : List ℕ} (h : Noted s noted) (hq : s.Queued)
    {lRequest : RetransmitRequest} {rest : List RetransmitRequest}
    (hqueue : s.mRetransmitQueue = lRequest :: rest)
    (hgone : s.live lRequest.mKey lRequest.mGeneration = none) :
    Noted (s.pop lRequest rest) noted := by
  refine ⟨order_pop h hqueue, fun g hg k f hk hgen => ?_, h.issued⟩
  refine Finset.mem_erase.mpr ⟨?_, h.queued g hg k f hk hgen⟩
  rintro rfl
  have hkey := hq.keyed lRequest (hqueue ▸ List.mem_cons_self) k f hk hgen
  rw [live_eq_some.mpr ⟨hkey ▸ hk, hgen⟩] at hgone
  cases hgone

theorem Noted.serve {s : Retention} {noted : List ℕ} (h : Noted s noted)
    {lRequest : RetransmitRequest} {rest : List RetransmitRequest} {f : RetainedFragment}
    (hqueue : s.mRetransmitQueue = lRequest :: rest)
    (hlive : s.live lRequest.mKey lRequest.mGeneration = some f) :
    Noted ((s.pop lRequest rest).retry lRequest f)
      (noted.filter fun g => g ≠ lRequest.mGeneration) := by
  obtain ⟨hkey, -⟩ := live_eq_some.mp hlive
  have hbuffer : ∀ k, ((s.pop lRequest rest).retry lRequest f).mRetentionBuffer[k]? =
      if lRequest.mKey = k then some (retried f) else s.mRetentionBuffer[k]? :=
    fun k => TreeMap.getElem?_insert _ _ _ _
  have hfilter : (noted.filter fun g => g ≠ lRequest.mGeneration).filter
      (fun g => g ∈ s.mQueuedRetransmits.erase lRequest.mGeneration) =
        noted.filter fun g => g ∈ s.mQueuedRetransmits.erase lRequest.mGeneration := by
    rw [List.filter_filter]
    apply List.filter_congr
    intro g _
    by_cases hg : g = lRequest.mGeneration <;> simp [hg]
  refine ⟨?_, fun g hg k f' hk hgen => ?_, fun g hg => h.issued g (List.mem_of_mem_filter hg)⟩
  · change (rest.map RetransmitRequest.mGeneration).filter
      (fun g => g ∈ s.mQueuedRetransmits.erase lRequest.mGeneration) = _
    rw [order_pop h hqueue, ← hfilter]
    rfl
  · refine Finset.mem_erase.mpr ⟨by simpa using (List.mem_filter.mp hg).2, ?_⟩
    have hmem := List.mem_of_mem_filter hg
    rw [hbuffer] at hk
    split_ifs at hk with hkk
    · rw [Option.some.injEq] at hk
      rw [← hk] at hgen
      exact h.queued g hmem _ f hkey hgen
    · exact h.queued g hmem k f' hk hgen

theorem queued_step (cfg : SenderConfig) {s : Retention} {noted : List ℕ} (hs : s.Represented) (hq : s.Queued)
    (h : Noted s noted) (call : StoreCall) :
    ((machine cfg).step s call).1.Queued ∧
      Noted ((machine cfg).step s call).1 (s.note call noted) := by
  cases call with
  | evict lNow =>
      have he := hq.evictOldRetention cfg lNow 0
      exact ⟨he.queued, h.evicted hq he⟩
  | retain lNow mTimestampUs aSuperFrameNo aFragmentNo aStreamId apData =>
      simp only [machine, note]
      by_cases hretains : Retains cfg apData
      · have he := hq.evictOldRetention cfg lNow
          (apData.length - s.existingSize (makeRetentionKey aSuperFrameNo aFragmentNo))
        rw [retainFragment_of s lNow mTimestampUs aSuperFrameNo aFragmentNo aStreamId hretains]
        exact ⟨(he.queued.place _ rfl).1, (h.evicted hq he).place he.queued _ rfl⟩
      · rw [retainFragment_of_not s lNow mTimestampUs aSuperFrameNo aFragmentNo aStreamId hretains]
        exact ⟨hq, h⟩
  | request lKey mStreamId =>
      simp only [machine, request, note]
      cases hkey : s.mRetentionBuffer[lKey]? with
      | none => exact ⟨hq, h⟩
      | some f =>
          dsimp only
          by_cases hstream : f.mStreamId = mStreamId
          · rw [if_pos hstream]
            by_cases hnew : f.mGeneration ∉ s.mQueuedRetransmits
            · rw [if_pos ⟨hstream, hnew⟩]
              obtain ⟨hfresh, hq'⟩ := hq.enqueue hs hkey hnew
              exact ⟨hq', h.enqueue hs hkey hnew hfresh⟩
            · rw [if_neg fun hand => hnew hand.2]
              exact ⟨hq, h.again hq (not_not.mp hnew)⟩
          · rw [if_neg hstream, if_neg fun hand => hstream hand.1]
            exact ⟨hq, h⟩
  | take =>
      refine ⟨hq.take, ?_⟩
      simp only [machine, note]
      cases hqueue : s.mRetransmitQueue with
      | nil =>
          rw [take, hqueue]
          exact h
      | cons lRequest rest =>
          rw [take_cons hqueue]
          cases hlive : (s.pop lRequest rest).live lRequest.mKey lRequest.mGeneration with
          | none => exact h.drop hq hqueue hlive
          | some f => exact h.serve hqueue hlive

theorem queued_after (cfg : SenderConfig) {s : Retention} {noted : List ℕ} (hs : s.Represented) (hq : s.Queued)
    (h : Noted s noted) (calls : List StoreCall) :
    (s.after cfg calls).Queued ∧ Noted (s.after cfg calls) (unanswered cfg s calls noted) := by
  induction calls generalizing s noted with
  | nil => exact ⟨hq, h⟩
  | cons call calls ih =>
      obtain ⟨hq', h'⟩ := queued_step cfg hs hq h call
      exact ih (hs.step cfg call).1 hq' h'

theorem noted_empty : Noted {} [] :=
  ⟨rfl, fun _ hg => absurd hg List.not_mem_nil, fun _ hg => absurd hg List.not_mem_nil⟩

end Retention

end ElasticFrame
