import ElasticFrame.Sender.Trace
import ElasticFrame.Lib.Expiry
import ElasticFrame.Lib.TreeMap

/-!
The representation invariant of the retained fragments: the order records
that are not stale are the entries of the map, oldest first, and the byte
counter is their size.

A record goes stale when its fragment is replaced or evicted, and the
generations keep it stale: they grow along the records, so no later fragment
is taken for the one it meant.
-/

namespace ElasticFrame

open Lib

namespace Retention

/-- The retained fragments with their keys, oldest first. -/
def retained (s : Retention) : List (UInt32 × RetainedFragment) :=
  s.mRetentionOrder.filterMap fun lOldest =>
    (s.live lOldest.mKey lOldest.mGeneration).map fun f => (lOldest.mKey, f)

def size (e : UInt32 × RetainedFragment) : ℕ := e.2.mData.length

structure Represented (s : Retention) : Prop where
  bytes : s.mRetentionBufferBytes = Expiry.total size s.retained
  recorded : ∀ k f, s.mRetentionBuffer[k]? = some f →
    { mKey := k, mGeneration := f.mGeneration } ∈ s.mRetentionOrder
  increasing : s.mRetentionOrder.Pairwise fun a b => a.mGeneration < b.mGeneration
  issued : ∀ lOldest ∈ s.mRetentionOrder, lOldest.mGeneration ≤ s.mRetentionGeneration

theorem live_eq_some {s : Retention} {mKey : UInt32} {mGeneration : ℕ} {f : RetainedFragment} :
    s.live mKey mGeneration = some f ↔
      s.mRetentionBuffer[mKey]? = some f ∧ f.mGeneration = mGeneration := by
  rw [live]
  cases s.mRetentionBuffer[mKey]? with
  | none => simp
  | some f' =>
      dsimp only
      split_ifs with hgen
      · rw [Option.some.injEq]
        exact ⟨by rintro rfl; exact ⟨rfl, hgen⟩, And.left⟩
      · simp only [false_iff, not_and, Option.some.injEq]
        rintro rfl
        exact hgen

theorem mem_retained_iff {s : Retention} {k : UInt32} {f : RetainedFragment} :
    (k, f) ∈ s.retained ↔
      { mKey := k, mGeneration := f.mGeneration } ∈ s.mRetentionOrder ∧
        s.mRetentionBuffer[k]? = some f := by
  rw [retained, List.mem_filterMap]
  constructor
  · rintro ⟨⟨k', g⟩, hmem, hlive⟩
    obtain ⟨f', hf', heq⟩ := Option.map_eq_some_iff.mp hlive
    obtain ⟨rfl, rfl⟩ := Prod.mk.injEq .. ▸ heq
    obtain ⟨hmap, rfl⟩ := live_eq_some.mp hf'
    exact ⟨hmem, hmap⟩
  · rintro ⟨hmem, hmap⟩
    exact ⟨_, hmem, by rw [live_eq_some.mpr ⟨hmap, rfl⟩]; rfl⟩

theorem total_without {l : List (UInt32 × RetainedFragment)}
    (hkeys : l.Pairwise fun a b => a.1 ≠ b.1) {k : UInt32} {f : RetainedFragment}
    (hmem : (k, f) ∈ l) :
    Expiry.total size (l.filter fun e => e.1 ≠ k) + f.mData.length = Expiry.total size l := by
  have hnot : (fun e : UInt32 × RetainedFragment => decide (e.1 ≠ k)) =
      fun e => !decide (e.1 = k) := by
    funext e
    exact decide_not
  have hone : l.Pairwise fun a b => decide (a.1 = k) = true → decide (b.1 = k) = false :=
    hkeys.imp fun hne heq =>
      decide_eq_false fun heq' => hne ((of_decide_eq_true heq).trans heq'.symm)
  rw [hnot]
  exact Expiry.total_filter_not size hmem (decide_eq_true rfl) hone

theorem filter_of_absent {l : List (UInt32 × RetainedFragment)} {k : UInt32}
    (h : ∀ f, (k, f) ∉ l) : (l.filter fun e => e.1 ≠ k) = l := by
  rw [List.filter_eq_self]
  rintro ⟨k', f⟩ hmem
  rw [decide_eq_true_iff]
  rintro rfl
  exact h f hmem

namespace Represented

variable {s : Retention}

theorem mem_retained (h : s.Represented) {k : UInt32} {f : RetainedFragment} :
    (k, f) ∈ s.retained ↔ s.mRetentionBuffer[k]? = some f :=
  mem_retained_iff.trans ⟨And.right, fun hmap => ⟨h.recorded k f hmap, hmap⟩⟩

theorem key_unique (h : s.Represented) {k k' : UInt32} {f f' : RetainedFragment}
    (hk : s.mRetentionBuffer[k]? = some f) (hk' : s.mRetentionBuffer[k']? = some f')
    (hgen : f.mGeneration = f'.mGeneration) : k = k' := by
  have hinj := List.inj_on_of_nodup_map
    ((List.pairwise_map.mpr h.increasing).imp fun hlt => Nat.ne_of_lt hlt)
    (h.recorded k f hk) (h.recorded k' f' hk') hgen
  exact congrArg RetentionOrderEntry.mKey hinj

theorem retained_increasing (h : s.Represented) :
    s.retained.Pairwise fun a b => a.2.mGeneration < b.2.mGeneration := by
  refine List.Pairwise.filterMap _ ?_ h.increasing
  rintro ⟨k, g⟩ ⟨k', g'⟩ hlt b hb b' hb'
  obtain ⟨f, hf, rfl⟩ := Option.map_eq_some_iff.mp hb
  obtain ⟨f', hf', rfl⟩ := Option.map_eq_some_iff.mp hb'
  obtain ⟨-, rfl⟩ := live_eq_some.mp hf
  obtain ⟨-, rfl⟩ := live_eq_some.mp hf'
  exact hlt

theorem retained_keys (h : s.Represented) : s.retained.Pairwise fun a b => a.1 ≠ b.1 := by
  refine h.retained_increasing.imp_of_mem ?_
  rintro ⟨k, f⟩ ⟨k', f'⟩ hf hf' hlt hkey
  have hk := h.mem_retained.mp hf
  have hk' := h.mem_retained.mp hf'
  rw [show k = k' from hkey, hk', Option.some.injEq] at hk
  rw [hk] at hlt
  exact Nat.lt_irrefl _ hlt

theorem retained_perm (h : s.Represented) : s.retained.Perm s.mRetentionBuffer.toList := by
  refine TreeMap.perm_toList (h.retained_increasing.imp ?_) fun k f => h.mem_retained
  rintro a b hlt rfl
  exact Nat.lt_irrefl _ hlt

end Represented

theorem represented_empty : ({} : Retention).Represented := by
  refine ⟨rfl, fun k f h => ?_, .nil, fun r hr => absurd hr List.not_mem_nil⟩
  simp at h

/-! ### Eviction -/

/-- The oldest record leaves with its fragment. -/
def evictOne (s : Retention) (lOldest : RetentionOrderEntry) (f : RetainedFragment) : Retention :=
  { s with
    mRetentionBuffer := s.mRetentionBuffer.erase lOldest.mKey
    mRetentionBufferBytes := sizeSub s.mRetentionBufferBytes f.mData.length
    mQueuedRetransmits := s.mQueuedRetransmits.erase lOldest.mGeneration }

/-- The state with the order records `order`. The loop of `evictOldRetention`
sets them when it ends. -/
def withOrder (s : Retention) (order : List RetentionOrderEntry) : Retention :=
  { s with mRetentionOrder := order }

theorem retained_cons (s : Retention) (lOldest : RetentionOrderEntry)
    (rest : List RetentionOrderEntry) :
    (s.withOrder (lOldest :: rest)).retained =
      ((s.live lOldest.mKey lOldest.mGeneration).map fun f => (lOldest.mKey, f)).toList ++
        (s.withOrder rest).retained := by
  have hcons : (s.withOrder (lOldest :: rest)).mRetentionOrder = lOldest :: rest := rfl
  have hlive : (s.withOrder (lOldest :: rest)).live lOldest.mKey lOldest.mGeneration =
      s.live lOldest.mKey lOldest.mGeneration := rfl
  rw [retained, hcons, List.filterMap_cons, hlive]
  cases s.live lOldest.mKey lOldest.mGeneration with
  | none => rfl
  | some f => rfl

variable {cfg : SenderConfig}

theorem Represented.drop {s : Retention} {lOldest : RetentionOrderEntry}
    {rest : List RetentionOrderEntry} (h : (s.withOrder (lOldest :: rest)).Represented)
    (hstale : s.live lOldest.mKey lOldest.mGeneration = none) :
    (s.withOrder rest).Represented ∧
      (s.withOrder (lOldest :: rest)).retained = (s.withOrder rest).retained := by
  have hretained : (s.withOrder (lOldest :: rest)).retained = (s.withOrder rest).retained := by
    rw [retained_cons, hstale]
    rfl
  refine ⟨⟨h.bytes.trans (by rw [hretained]), fun k f hk => ?_, (List.pairwise_cons.mp
    h.increasing).2, fun r hr => h.issued r (List.mem_cons_of_mem _ hr)⟩, hretained⟩
  rcases List.mem_cons.mp (h.recorded k f hk) with heq | hrest
  · have hsome : s.live k f.mGeneration = some f := live_eq_some.mpr ⟨hk, rfl⟩
    rw [← heq, hsome] at hstale
    cases hstale
  · exact hrest

theorem Represented.evictOne {s : Retention} {lOldest : RetentionOrderEntry}
    {rest : List RetentionOrderEntry} {f : RetainedFragment}
    (h : (s.withOrder (lOldest :: rest)).Represented)
    (hlive : s.live lOldest.mKey lOldest.mGeneration = some f) :
    ((s.evictOne lOldest f).withOrder rest).Represented ∧
      (s.withOrder (lOldest :: rest)).retained =
        (lOldest.mKey, f) :: ((s.evictOne lOldest f).withOrder rest).retained := by
  obtain ⟨hkey, hgen⟩ := live_eq_some.mp hlive
  have hbuffer : ∀ k, ((s.evictOne lOldest f).withOrder rest).mRetentionBuffer[k]? =
      if lOldest.mKey = k then none else s.mRetentionBuffer[k]? :=
    fun k => TreeMap.getElem?_erase _ _ _
  -- what the other records stand for does not change
  have hrest : ((s.evictOne lOldest f).withOrder rest).retained = (s.withOrder rest).retained := by
    apply List.filterMap_congr
    intro r hr
    have hlt := (List.pairwise_cons.mp h.increasing).1 r hr
    congr 1
    apply Option.ext
    intro f'
    rw [live_eq_some, live_eq_some, hbuffer]
    by_cases hk : lOldest.mKey = r.mKey
    · rw [if_pos hk, ← hk]
      refine ⟨fun hnone => (by cases hnone.1), fun ⟨hf', hgen'⟩ => absurd hlt ?_⟩
      rw [show s.mRetentionBuffer[lOldest.mKey]? = some f' from hf', Option.some.injEq] at hkey
      rw [← hkey] at hgen
      omega
    · rw [if_neg hk]
      exact Iff.rfl
  have hretained : (s.withOrder (lOldest :: rest)).retained =
      (lOldest.mKey, f) :: ((s.evictOne lOldest f).withOrder rest).retained := by
    rw [retained_cons, hlive, hrest]
    rfl
  refine ⟨⟨?_, fun k f' hk => ?_, (List.pairwise_cons.mp h.increasing).2,
    fun r hr => h.issued r (List.mem_cons_of_mem _ hr)⟩, hretained⟩
  · have hbytes : s.mRetentionBufferBytes = Expiry.total size _ := h.bytes
    rw [hretained, Expiry.total_cons] at hbytes
    change sizeSub s.mRetentionBufferBytes f.mData.length = _
    rw [hbytes, show size (lOldest.mKey, f) = f.mData.length from rfl,
      sizeSub_of_le (Nat.le_add_right _ _), Nat.add_sub_cancel_left]
  · rw [hbuffer] at hk
    split_ifs at hk with hne
    rcases List.mem_cons.mp (h.recorded k f' hk) with heq | hmem
    · exact absurd (congrArg RetentionOrderEntry.mKey heq).symm hne
    · exact hmem

/-- The fragments that have expired at `lCutoffUs`. -/
def Expired (lCutoffUs : ℤ) (e : UInt32 × RetainedFragment) : Prop := e.2.mTimestampUs < lCutoffUs

instance (lCutoffUs : ℤ) : DecidablePred (Expired lCutoffUs) :=
  fun e => inferInstanceAs (Decidable (e.2.mTimestampUs < lCutoffUs))

theorem inTheWay_iff (bytes required cap : ℕ) :
    ¬ (required > cap ∨ bytes > cap - required) ↔ bytes + required ≤ cap := by
  omega

theorem evictLoop_represented (lCutoffUs : ℤ) (aRequiredBytes : ℕ)
    (order : List RetentionOrderEntry) (s : Retention) (h : (s.withOrder order).Represented) :
    (evictLoop cfg lCutoffUs aRequiredBytes order s).Represented ∧
      (evictLoop cfg lCutoffUs aRequiredBytes order s).retained =
        Expiry.expire size (Expired lCutoffUs) cfg.mRetentionMaxBytes aRequiredBytes
          (s.withOrder order).retained := by
  induction order generalizing s with
  | nil => exact ⟨h, rfl⟩
  | cons lOldest rest ih =>
      cases hlive : s.live lOldest.mKey lOldest.mGeneration with
      | none =>
          obtain ⟨hrest, hretained⟩ := h.drop hlive
          rw [evictLoop, hlive, hretained]
          exact ih s hrest
      | some f =>
          obtain ⟨hrest, hretained⟩ := h.evictOne hlive
          rw [evictLoop, hlive]
          dsimp only
          by_cases hkeep : ¬ f.mTimestampUs < lCutoffUs ∧
              ¬ (aRequiredBytes > cfg.mRetentionMaxBytes ∨
                s.mRetentionBufferBytes > cfg.mRetentionMaxBytes - aRequiredBytes)
          · have hroom := (inTheWay_iff _ _ _).mp hkeep.2
            have hbytes : s.mRetentionBufferBytes = Expiry.total size _ := h.bytes
            rw [hbytes, hretained] at hroom
            rw [if_pos hkeep, hretained, Expiry.expire, if_pos ⟨hkeep.1, hroom⟩]
            exact ⟨h, hretained⟩
          · have hleave : ¬ (¬ Expired lCutoffUs (lOldest.mKey, f) ∧
                Expiry.total size
                  ((lOldest.mKey, f) :: ((s.evictOne lOldest f).withOrder rest).retained) +
                  aRequiredBytes ≤ cfg.mRetentionMaxBytes) := by
              rw [← hretained, ← h.bytes]
              exact fun hk => hkeep ⟨hk.1, (inTheWay_iff _ _ _).mpr hk.2⟩
            rw [if_neg hkeep, hretained, Expiry.expire, if_neg hleave]
            exact ih (s.evictOne lOldest f) hrest

/-- The time before which fragments have expired. -/
def cutoff (cfg : SenderConfig) (lNow : ℤ) : ℤ := lNow - (cfg.mRetentionMs.toNat : ℤ) * 1000

theorem Represented.evictOldRetention {s : Retention} (h : s.Represented) (cfg : SenderConfig)
    (lNow : ℤ)
    (aRequiredBytes : ℕ) :
    (s.evictOldRetention cfg lNow aRequiredBytes).Represented ∧
      (s.evictOldRetention cfg lNow aRequiredBytes).retained =
        Expiry.expire size (Expired (cutoff cfg lNow)) cfg.mRetentionMaxBytes aRequiredBytes
          s.retained :=
  evictLoop_represented (cutoff cfg lNow) aRequiredBytes s.mRetentionOrder s h

/-! ### A new fragment -/

/-- The size of the fragment retained under a key, 0 if there is none. -/
def existingSize (s : Retention) (lKey : UInt32) : ℕ :=
  (s.mRetentionBuffer[lKey]?.map fun f => f.mData.length).getD 0

/-- The eviction `retainFragment` starts with. -/
def madeRoom (cfg : SenderConfig) (s : Retention) (lNow : ℤ) (lKey : UInt32) (aSize : ℕ) :
    Retention :=
  s.evictOldRetention cfg lNow (aSize - s.existingSize lKey)

/-- A fragment takes the place of the one that is retained under its key. -/
def place (s : Retention) (lKey : UInt32) (f : RetainedFragment) : Retention where
  mRetentionBuffer := s.mRetentionBuffer.insert lKey f
  mRetentionOrder := s.mRetentionOrder ++ [{ mKey := lKey, mGeneration := f.mGeneration }]
  mRetentionBufferBytes :=
    (match s.mRetentionBuffer[lKey]? with
    | none => s.mRetentionBufferBytes
    | some lExisting => sizeSub s.mRetentionBufferBytes lExisting.mData.length) + f.mData.length
  mRetransmitQueue := s.mRetransmitQueue
  mQueuedRetransmits :=
    match s.mRetentionBuffer[lKey]? with
    | none => s.mQueuedRetransmits
    | some lExisting => s.mQueuedRetransmits.erase lExisting.mGeneration
  mRetentionGeneration := f.mGeneration

/-- The entry `retainFragment` makes. -/
def newFragment (s : Retention) (mTimestampUs : ℤ) (aSuperFrameNo aFragmentNo : UInt16)
    (aStreamId : UInt8) (apData : List UInt8) : RetainedFragment where
  mTimestampUs := mTimestampUs
  mSuperFrameNo := aSuperFrameNo
  mFragmentNo := aFragmentNo
  mStreamId := aStreamId
  mRetryCount := 0
  mGeneration := s.mRetentionGeneration + 1
  mData := apData

def Retains (cfg : SenderConfig) (apData : List UInt8) : Prop :=
  ¬ (cfg.mRetentionMs = 0 ∨ apData.length > cfg.mRetentionMaxBytes)

instance (apData : List UInt8) : Decidable (Retains cfg apData) :=
  inferInstanceAs (Decidable (¬ _))

theorem retainFragment_of_not (s : Retention) (lNow mTimestampUs : ℤ)
    (aSuperFrameNo aFragmentNo : UInt16) (aStreamId : UInt8) {apData : List UInt8}
    (h : ¬ Retains cfg apData) :
    s.retainFragment cfg lNow mTimestampUs aSuperFrameNo aFragmentNo aStreamId apData = s :=
  if_pos (not_not.mp h)

theorem retainFragment_of (s : Retention) (lNow mTimestampUs : ℤ)
    (aSuperFrameNo aFragmentNo : UInt16) (aStreamId : UInt8) {apData : List UInt8}
    (h : Retains cfg apData) :
    s.retainFragment cfg lNow mTimestampUs aSuperFrameNo aFragmentNo aStreamId apData =
      (s.madeRoom cfg lNow (makeRetentionKey aSuperFrameNo aFragmentNo) apData.length).place
        (makeRetentionKey aSuperFrameNo aFragmentNo)
        ((s.madeRoom cfg lNow (makeRetentionKey aSuperFrameNo aFragmentNo)
          apData.length).newFragment mTimestampUs aSuperFrameNo aFragmentNo aStreamId apData) := by
  have hrequired : ∀ e : ℕ,
      (if apData.length > e then apData.length - e else 0) = apData.length - e := by
    intro e
    split_ifs <;> omega
  rw [retainFragment, if_neg h]
  simp only [hrequired, madeRoom, existingSize, place, newFragment]
  generalize evictOldRetention cfg s lNow _ = made
  cases made.mRetentionBuffer[makeRetentionKey aSuperFrameNo aFragmentNo]? with
  | none => rfl
  | some lExisting => rfl

theorem Represented.place {s : Retention} (h : s.Represented) (lKey : UInt32)
    {f : RetainedFragment} (hf : f.mGeneration = s.mRetentionGeneration + 1) :
    (s.place lKey f).Represented ∧
      (s.place lKey f).retained = s.retained.filter (fun e => e.1 ≠ lKey) ++ [(lKey, f)] := by
  have hbuffer : ∀ k, (s.place lKey f).mRetentionBuffer[k]? =
      if lKey = k then some f else s.mRetentionBuffer[k]? :=
    fun k => TreeMap.getElem?_insert _ _ _ _
  have hnew : (s.place lKey f).live lKey f.mGeneration = some f :=
    live_eq_some.mpr ⟨(hbuffer lKey).trans (if_pos rfl), rfl⟩
  -- a record goes stale just when it means the fragment that is replaced
  have hold : s.mRetentionOrder.filterMap (fun r =>
      ((s.place lKey f).live r.mKey r.mGeneration).map fun f => (r.mKey, f)) =
        s.retained.filter fun e => e.1 ≠ lKey := by
    rw [retained, List.filter_filterMap]
    apply List.filterMap_congr
    intro r hr
    have hissued := h.issued r hr
    by_cases hk : lKey = r.mKey
    · have hstale : (s.place lKey f).live r.mKey r.mGeneration = none := by
        rw [Option.eq_none_iff_forall_ne_some]
        intro f' hf'
        obtain ⟨hmap, hgen⟩ := live_eq_some.mp hf'
        rw [hbuffer, if_pos hk, Option.some.injEq] at hmap
        subst hmap
        omega
      rw [hstale]
      cases s.live r.mKey r.mGeneration with
      | none => rfl
      | some f' => simp [Option.filter, hk]
    · have hsame : (s.place lKey f).live r.mKey r.mGeneration = s.live r.mKey r.mGeneration := by
        rw [live, live, hbuffer, if_neg hk]
      rw [hsame]
      cases s.live r.mKey r.mGeneration with
      | none => rfl
      | some f' => simp [Option.filter, Ne.symm hk]
  have hretained : (s.place lKey f).retained =
      s.retained.filter (fun e => e.1 ≠ lKey) ++ [(lKey, f)] := by
    rw [← hold, retained]
    change (s.mRetentionOrder ++ _).filterMap _ = _
    rw [List.filterMap_append, List.filterMap_cons_some (by rw [hnew]; rfl), List.filterMap_nil]
  refine ⟨⟨?_, fun k f' hk => ?_, ?_, fun r hr => ?_⟩, hretained⟩
  · rw [hretained, Expiry.total_append, Expiry.total_cons, Expiry.total_nil]
    change _ + f.mData.length = _ + (f.mData.length + 0)
    rw [Nat.add_zero, h.bytes]
    cases hexisting : s.mRetentionBuffer[lKey]? with
    | none =>
        rw [filter_of_absent fun f' hf' => ?_]
        rw [h.mem_retained, hexisting] at hf'
        cases hf'
    | some lExisting =>
        rw [← total_without h.retained_keys (h.mem_retained.mpr hexisting)]
        dsimp only
        rw [sizeSub_of_le (Nat.le_add_left _ _), Nat.add_sub_cancel]
  · rw [hbuffer] at hk
    split_ifs at hk with hkey
    · cases hk
      rw [hkey]
      exact List.mem_append_right _ List.mem_cons_self
    · exact List.mem_append_left _ (h.recorded k f' hk)
  · refine List.pairwise_append.mpr ⟨h.increasing, List.pairwise_singleton _ _, ?_⟩
    intro r hr r' hr'
    rw [List.mem_singleton.mp hr']
    have hissued := h.issued r hr
    show r.mGeneration < f.mGeneration
    omega
  · change r.mGeneration ≤ f.mGeneration
    rcases List.mem_append.mp hr with hr | hr
    · have hissued := h.issued r hr
      omega
    · rw [List.mem_singleton.mp hr]

/-! ### A retransmit -/

def retried (f : RetainedFragment) : RetainedFragment := { f with mRetryCount := f.mRetryCount + 1 }

theorem Represented.retry {s : Retention} (h : s.Represented) {lRequest : RetransmitRequest}
    {f : RetainedFragment} (hlive : s.live lRequest.mKey lRequest.mGeneration = some f) :
    (s.retry lRequest f).Represented ∧
      (s.retry lRequest f).retained =
        s.retained.map fun e => if e.1 = lRequest.mKey then (e.1, retried e.2) else e := by
  obtain ⟨hkey, -⟩ := live_eq_some.mp hlive
  have hbuffer : ∀ k, (s.retry lRequest f).mRetentionBuffer[k]? =
      if lRequest.mKey = k then some (retried f) else s.mRetentionBuffer[k]? :=
    fun k => TreeMap.getElem?_insert _ _ _ _
  have hretained : (s.retry lRequest f).retained =
      s.retained.map fun e => if e.1 = lRequest.mKey then (e.1, retried e.2) else e := by
    rw [retained, retained, List.map_filterMap]
    apply List.filterMap_congr
    intro r _
    rw [live, live, hbuffer]
    by_cases hk : lRequest.mKey = r.mKey
    · rw [if_pos hk, ← hk, hkey]
      by_cases hgen : f.mGeneration = r.mGeneration
      · simp [hgen, retried]
      · simp [hgen, retried]
    · rw [if_neg hk]
      cases s.mRetentionBuffer[r.mKey]? with
      | none => rfl
      | some f' =>
          by_cases hgen : f'.mGeneration = r.mGeneration
          · simp [hgen, Ne.symm hk]
          · simp [hgen]
  refine ⟨⟨?_, fun k f' hk => ?_, h.increasing, h.issued⟩, hretained⟩
  · rw [hretained, Expiry.total, List.map_map]
    refine h.bytes.trans (congrArg List.sum (List.map_congr_left ?_))
    intro e _
    rw [Function.comp_apply]
    split_ifs <;> rfl
  · rw [hbuffer] at hk
    split_ifs at hk with hkk
    · cases hk
      rw [← hkk]
      exact h.recorded _ f hkey
    · exact h.recorded k f' hk

/-- Everything a call can do to the retained fragments. -/
inductive Changed (cfg : SenderConfig) :
    List (UInt32 × RetainedFragment) → StoreCall → List (UInt32 × RetainedFragment) → Prop
  /-- What has expired or is in the way leaves at the front. -/
  | evict (lNow : ℤ) (l) :
      Changed cfg l (.evict lNow)
        (Expiry.expire size (Expired (cutoff cfg lNow)) cfg.mRetentionMaxBytes 0 l)
  /-- A fragment comes in at the end, in the place of its predecessor. -/
  | retain (lNow mTimestampUs : ℤ) (aSuperFrameNo aFragmentNo : UInt16) (aStreamId : UInt8)
      (apData : List UInt8) (l) (aRequiredBytes mGeneration : ℕ) :
      Retains cfg apData →
      (∀ f, (makeRetentionKey aSuperFrameNo aFragmentNo, f) ∈ l →
        aRequiredBytes = apData.length - f.mData.length) →
      ((∀ f, (makeRetentionKey aSuperFrameNo aFragmentNo, f) ∉ l) →
        aRequiredBytes = apData.length) →
      Changed cfg l
        (.retain lNow mTimestampUs aSuperFrameNo aFragmentNo aStreamId apData)
        ((Expiry.expire size (Expired (cutoff cfg lNow)) cfg.mRetentionMaxBytes aRequiredBytes
            l).filter (fun e => e.1 ≠ makeRetentionKey aSuperFrameNo aFragmentNo) ++
          [(makeRetentionKey aSuperFrameNo aFragmentNo,
            { mTimestampUs
              mSuperFrameNo := aSuperFrameNo
              mFragmentNo := aFragmentNo
              mStreamId := aStreamId
              mRetryCount := 0
              mGeneration
              mData := apData })])
  | skip (lNow mTimestampUs : ℤ) (aSuperFrameNo aFragmentNo : UInt16) (aStreamId : UInt8)
      (apData : List UInt8) (l) :
      ¬ Retains cfg apData →
      Changed cfg l (.retain lNow mTimestampUs aSuperFrameNo aFragmentNo aStreamId apData) l
  | request (lKey : UInt32) (mStreamId : UInt8) (l) : Changed cfg l (.request lKey mStreamId) l
  | take (l) : Changed cfg l .take l
  /-- A fragment is retried. -/
  | retry (lKey : UInt32) (l) :
      Changed cfg l .take (l.map fun e => if e.1 = lKey then (e.1, retried e.2) else e)

theorem Represented.step {s : Retention} (h : s.Represented) (cfg : SenderConfig)
    (call : StoreCall) :
    ((machine cfg).step s call).1.Represented ∧
      Changed cfg s.retained call ((machine cfg).step s call).1.retained := by
  cases call with
  | evict lNow =>
      obtain ⟨hevicted, hretained⟩ := h.evictOldRetention cfg lNow 0
      refine ⟨hevicted, ?_⟩
      simp only [machine, hretained]
      exact .evict lNow s.retained
  | retain lNow mTimestampUs aSuperFrameNo aFragmentNo aStreamId apData =>
      simp only [machine]
      by_cases hretains : Retains cfg apData
      · obtain ⟨hroom, hleft⟩ := h.evictOldRetention cfg lNow
          (apData.length - s.existingSize (makeRetentionKey aSuperFrameNo aFragmentNo))
        obtain ⟨hplaced, hretained⟩ := hroom.place (makeRetentionKey aSuperFrameNo aFragmentNo)
          (f := newFragment _ mTimestampUs aSuperFrameNo aFragmentNo aStreamId apData) rfl
        rw [hleft] at hretained
        rw [retainFragment_of s lNow mTimestampUs aSuperFrameNo aFragmentNo aStreamId hretains]
        refine ⟨hplaced, ?_⟩
        rw [madeRoom, hretained]
        apply Changed.retain
        · exact hretains
        · intro f hf
          rw [existingSize, h.mem_retained.mp hf]
          rfl
        · intro hnone
          rw [existingSize, Option.eq_none_iff_forall_ne_some.mpr fun f hf =>
            hnone f (h.mem_retained.mpr hf)]
          rfl
      · rw [retainFragment_of_not s lNow mTimestampUs aSuperFrameNo aFragmentNo aStreamId hretains]
        exact ⟨h, .skip _ _ _ _ _ _ _ hretains⟩
  | request lKey mStreamId =>
      have hsame : ((machine cfg).step s (.request lKey mStreamId)).1.Represented ∧
          ((machine cfg).step s (.request lKey mStreamId)).1.retained = s.retained := by
        simp only [machine, request]
        cases s.mRetentionBuffer[lKey]? with
        | none => exact ⟨h, rfl⟩
        | some f =>
            dsimp only
            split_ifs
            · exact ⟨⟨h.bytes, h.recorded, h.increasing, h.issued⟩, rfl⟩
            · exact ⟨h, rfl⟩
      rw [hsame.2]
      exact ⟨hsame.1, .request lKey mStreamId s.retained⟩
  | take =>
      simp only [machine, take]
      cases s.mRetransmitQueue with
      | nil => exact ⟨h, .take s.retained⟩
      | cons lRequest rest =>
          have hpop : (s.pop lRequest rest).Represented :=
            ⟨h.bytes, h.recorded, h.increasing, h.issued⟩
          dsimp only
          cases hlive : (s.pop lRequest rest).live lRequest.mKey lRequest.mGeneration with
          | none => exact ⟨hpop, .take s.retained⟩
          | some f =>
              obtain ⟨hretried, hretained⟩ := hpop.retry hlive
              refine ⟨hretried, ?_⟩
              dsimp only
              rw [hretained]
              exact .retry lRequest.mKey s.retained

theorem Represented.after {s : Retention} (h : s.Represented) (cfg : SenderConfig)
    (calls : List StoreCall) :
    (s.after cfg calls).Represented :=
  after_invariant (C := fun _ => True) (fun _ call hs _ => (hs.step cfg call).1) h fun _ _ => trivial

/-- What is retained was made, so what holds for all that is made holds for
all that is retained. -/
theorem Represented.all_entries {P : UInt32 → UInt8 → List UInt8 → Prop} {s : Retention}
    (hs : s.Represented) (h : ∀ e ∈ s.retained, P e.1 e.2.mStreamId e.2.mData)
    {calls : List StoreCall} (hcalls : ∀ call ∈ calls, call.Enters P) :
    ∀ e ∈ (s.after cfg calls).retained, P e.1 e.2.mStreamId e.2.mData := by
  refine (after_invariant
    (I := fun s => s.Represented ∧ ∀ e ∈ s.retained, P e.1 e.2.mStreamId e.2.mData)
    (C := StoreCall.Enters P) ?_ ⟨hs, h⟩ hcalls).2
  rintro s call ⟨hs, h⟩ hmakes
  obtain ⟨hs', hchanged⟩ := hs.step cfg call
  refine ⟨hs', ?_⟩
  generalize ((machine cfg).step s call).1.retained = left at hchanged
  generalize s.retained = l at hchanged h
  cases hchanged with
  | evict lNow => exact fun e he => h e ((Expiry.expire_suffix _ _ _ _ l).subset he)
  | skip => exact h
  | request => exact h
  | take => exact h
  | retry lKey =>
      intro e he
      obtain ⟨e, hmem, rfl⟩ := List.mem_map.mp he
      have hP := h e hmem
      split_ifs <;> exact hP
  | retain =>
      intro e he
      rcases List.mem_append.mp he with he | he
      · exact h e ((Expiry.expire_suffix _ _ _ _ l).subset (List.mem_of_mem_filter he))
      · rw [List.mem_singleton.mp he]
        exact hmakes

theorem Represented.all_after {P : UInt32 → List UInt8 → Prop} {s : Retention}
    (hs : s.Represented) (h : ∀ e ∈ s.retained, P e.1 e.2.mData) {calls : List StoreCall}
    (hcalls : ∀ call ∈ calls, call.Makes P) :
    ∀ e ∈ (s.after cfg calls).retained, P e.1 e.2.mData :=
  hs.all_entries (P := fun lKey _ apData => P lKey apData) h fun call hcall =>
    StoreCall.makes_iff.mp (hcalls call hcall)

theorem mem_retained_of_take {s : Retention} (hs : s.Represented) {lRequest : RetransmitRequest}
    {f : RetainedFragment} (h : s.take.2 = some (lRequest, f)) :
    (lRequest.mKey, f) ∈ s.retained := by
  cases hqueue : s.mRetransmitQueue with
  | nil =>
      rw [take, hqueue] at h
      cases h
  | cons lFirst rest =>
      rw [take_cons hqueue] at h
      cases hlive : (s.pop lFirst rest).live lFirst.mKey lFirst.mGeneration with
      | none =>
          rw [hlive] at h
          cases h
      | some f' =>
          rw [hlive] at h
          cases h
          exact hs.mem_retained.mpr (live_eq_some.mp hlive).1

theorem Represented.all_sent {P : UInt32 → List UInt8 → Prop} {s : Retention}
    (hs : s.Represented) (h : ∀ e ∈ s.retained, P e.1 e.2.mData) {calls : List StoreCall}
    (hcalls : ∀ call ∈ calls, call.Makes P) :
    ∀ t ∈ s.sent cfg calls, ∃ k, P k t.data := by
  induction calls generalizing s with
  | nil => exact fun t ht => absurd ht List.not_mem_nil
  | cons call calls ih =>
      have hmakes := hcalls call List.mem_cons_self
      intro t ht
      rw [sent_cons, List.mem_append] at ht
      rcases ht with ht | ht
      · cases call with
        | evict lNow => exact absurd ht List.not_mem_nil
        | request lKey mStreamId => exact absurd ht List.not_mem_nil
        | retain =>
            rw [List.mem_singleton.mp ht]
            exact ⟨_, hmakes⟩
        | take =>
            obtain ⟨⟨lRequest, f⟩, hserved, rfl⟩ := List.mem_map.mp ht
            have hretained := mem_retained_of_take hs (Option.mem_toList.mp hserved)
            exact ⟨_, h _ hretained⟩
      · have hone : ∀ c ∈ [call], c.Makes P := by
          intro c hc
          rw [List.mem_singleton.mp hc]
          exact hmakes
        exact ih (hs.step cfg call).1 (hs.all_after h hone)
          (fun c hc => hcalls c (List.mem_cons_of_mem _ hc)) t ht

theorem all_of_run (cfg : SenderConfig) {P : UInt32 → UInt8 → List UInt8 → Prop}
    (h : ∀ (s : Sender) (aData : List UInt8) (args : SendArgs), Sender.Sendable cfg aData →
      ∀ (k : ℕ) (data : List UInt8),
        ((s.planned cfg aData args).fragments aData (Sender.plan cfg aData.length).2)[k]? =
            some data →
          P (makeRetentionKey s.mSuperFrameNo (UInt16.ofNat k)) args.aStreamId data)
    (es : List SenderCall) (mKey : UInt32) (f : RetainedFragment)
    (hf : ((Sender.machine cfg).run (Sender.new cfg) es).1.retention.mRetentionBuffer[mKey]? =
      some f) : P mKey f.mStreamId f.mData := by
  rw [Sender.run_retention] at hf
  have hmem := (represented_empty.after cfg _).mem_retained.mpr hf
  refine represented_empty.all_entries (fun e he => ?_) (Sender.forall_entries h _ es) _ hmem
  exact absurd he List.not_mem_nil

end Retention

end ElasticFrame
