import ElasticFrame.Sender.Retained

/-!
What the retained fragments of a sender look like in every run: the
containers agree, the fragments lie in the order of their time stamps as
long as the clock does not go back, and an eviction takes the oldest. How
many bytes they are is another matter: the room for a fragment is reckoned
with the one it replaces, which the eviction may take away first.
-/

namespace ElasticFrame

open Lib

def StoreCall.readings (cfg : SenderConfig) : StoreCall → List ℤ
  | .evict lNow => [lNow]
  | .retain lNow mTimestampUs _ _ _ apData =>
      if Retention.Retains cfg apData then [lNow, mTimestampUs] else []
  | .request _ _ => []
  | .take => []

def Forwards (cfg : SenderConfig) (calls : List StoreCall) : Prop :=
  (calls.flatMap (StoreCall.readings cfg)).Pairwise (· ≤ ·)

instance (cfg : SenderConfig) (calls : List StoreCall) : Decidable (Forwards cfg calls) :=
  inferInstanceAs (Decidable (List.Pairwise _ _))

namespace Retention

variable {cfg : SenderConfig}

/-- What the containers of the retained fragments are to each other. -/
structure Consistent (s : Retention) : Prop where
  bytes : s.mRetentionBufferBytes =
    (s.mRetentionBuffer.toList.map fun e => e.2.mData.length).sum
  recorded : ∀ k f, s.mRetentionBuffer[k]? = some f →
    s.mRetentionOrder.count { mKey := k, mGeneration := f.mGeneration } = 1
  increasing : s.mRetentionOrder.Pairwise fun a b => a.mGeneration < b.mGeneration
  /-- The fragments whose records are not stale, along the records. -/
  inTime : s.retained.Pairwise fun a b => a.2.mTimestampUs ≤ b.2.mTimestampUs

/-- An eviction takes the oldest fragments and counts their bytes, and leaves
none that has expired. -/
structure Evicts (cfg : SenderConfig) (s : Retention) (lNow : ℤ) (s' : Retention) : Prop where
  oldest : ∃ evicted, s.retained = evicted ++ s'.retained ∧
    s.mRetentionBufferBytes = s'.mRetentionBufferBytes + Expiry.total size evicted
  entries : ∀ (k : UInt32) (f : RetainedFragment),
    s'.mRetentionBuffer[k]? = some f ↔ (k, f) ∈ s'.retained
  fresh : ∀ (k : UInt32) (f : RetainedFragment),
    s'.mRetentionBuffer[k]? = some f → ¬ f.mTimestampUs < cutoff cfg lNow

/-- The fragments lie in the order of their time stamps, none of which is
ahead of the readings to come. -/
structure InTime (l : List (UInt32 × RetainedFragment)) (readings : List ℤ) : Prop where
  ordered : l.Pairwise fun a b => a.2.mTimestampUs ≤ b.2.mTimestampUs
  past : ∀ e ∈ l, ∀ t ∈ readings, e.2.mTimestampUs ≤ t

theorem InTime.sublist {l l' : List (UInt32 × RetainedFragment)} {readings : List ℤ}
    (h : InTime l readings) (hl : l'.Sublist l) : InTime l' readings :=
  ⟨h.ordered.sublist hl, fun e he => h.past e (hl.subset he)⟩

theorem InTime.changed {l l' : List (UInt32 × RetainedFragment)} {call : StoreCall}
    {readings : List ℤ} (hchanged : Changed cfg l call l')
    (hclock : (call.readings cfg ++ readings).Pairwise (· ≤ ·))
    (h : InTime l (call.readings cfg ++ readings)) : InTime l' readings := by
  have hlater : InTime l readings :=
    ⟨h.ordered, fun e he t ht => h.past e he t (List.mem_append_right _ ht)⟩
  cases hchanged with
  | evict lNow => exact hlater.sublist (Expiry.expire_suffix _ _ _ _ l).sublist
  | skip => exact hlater
  | request => exact hlater
  | take => exact hlater
  | retry lKey =>
      have hstamp : ∀ e : UInt32 × RetainedFragment,
          (if e.1 = lKey then (e.1, retried e.2) else e).2.mTimestampUs = e.2.mTimestampUs := by
        intro e
        split_ifs <;> rfl
      refine ⟨List.pairwise_map.mpr (hlater.ordered.imp fun hle => ?_), fun e he t ht => ?_⟩
      · rwa [hstamp, hstamp]
      · obtain ⟨e, hmem, rfl⟩ := List.mem_map.mp he
        rw [hstamp]
        exact hlater.past e hmem t ht
  | retain lNow mTimestampUs aSuperFrameNo aFragmentNo aStreamId apData _ aRequiredBytes
      mGeneration hretains =>
      have hold : ∀ e ∈ (Expiry.expire size (Expired (cutoff cfg lNow)) cfg.mRetentionMaxBytes
          aRequiredBytes l).filter
            (fun e => e.1 ≠ makeRetentionKey aSuperFrameNo aFragmentNo), e ∈ l :=
        fun e he => (Expiry.expire_suffix _ _ _ _ l).subset (List.mem_of_mem_filter he)
      have hreadings : (StoreCall.retain lNow mTimestampUs aSuperFrameNo aFragmentNo aStreamId
          apData).readings cfg = [lNow, mTimestampUs] := if_pos hretains
      rw [hreadings] at hclock h
      have hstamp : ∀ t ∈ readings, mTimestampUs ≤ t :=
        (List.pairwise_cons.mp (List.pairwise_cons.mp hclock).2).1
      constructor
      · refine List.pairwise_append.mpr ⟨?_, List.pairwise_singleton _ _, ?_⟩
        · exact (hlater.ordered.sublist (Expiry.expire_suffix _ _ _ _ l).sublist).filter _
        · intro e he e' he'
          rw [List.mem_singleton.mp he']
          exact h.past e (hold e he) _ (by simp)
      · intro e he t ht
        rcases List.mem_append.mp he with he | he
        · exact hlater.past e (hold e he) t ht
        · rw [List.mem_singleton.mp he]
          exact hstamp t ht

theorem InTime.after {s : Retention} (hs : s.Represented) (calls : List StoreCall)
    (hclock : Forwards cfg calls)
    (h : InTime s.retained (calls.flatMap (StoreCall.readings cfg))) :
    InTime (s.after cfg calls).retained [] := by
  induction calls generalizing s with
  | nil => exact h
  | cons call calls ih =>
      rw [Forwards, List.flatMap_cons] at hclock
      rw [List.flatMap_cons] at h
      obtain ⟨hs', hchanged⟩ := hs.step cfg call
      exact ih hs' (List.pairwise_append.mp hclock).2.1 (h.changed hchanged hclock)

theorem Represented.consistent {s : Retention} (h : s.Represented)
    (htime : s.retained.Pairwise fun a b => a.2.mTimestampUs ≤ b.2.mTimestampUs) :
    s.Consistent := by
  refine ⟨h.bytes.trans (h.retained_perm.map size).sum_eq, fun k f hk => ?_, h.increasing, htime⟩
  apply List.count_eq_one_of_mem
  · exact h.increasing.imp fun hlt heq => Nat.ne_of_lt hlt (congrArg _ heq)
  · exact h.recorded k f hk

theorem Represented.evicts {s : Retention} (h : s.Represented)
    (htime : s.retained.Pairwise fun a b => a.2.mTimestampUs ≤ b.2.mTimestampUs) (lNow : ℤ)
    (aRequiredBytes : ℕ) :
    Evicts cfg s lNow (s.evictOldRetention cfg lNow aRequiredBytes) := by
  obtain ⟨hleft, hretained⟩ := h.evictOldRetention cfg lNow aRequiredBytes
  obtain ⟨evicted, hevicted⟩ := Expiry.expire_suffix size (Expired (cutoff cfg lNow))
    cfg.mRetentionMaxBytes aRequiredBytes s.retained
  rw [← hretained] at hevicted
  refine ⟨⟨evicted, hevicted.symm, ?_⟩, fun k f => hleft.mem_retained.symm, fun k f hk => ?_⟩
  · rw [h.bytes, hleft.bytes, ← hevicted, Expiry.total_append, Nat.add_comm]
  · have hmem := hleft.mem_retained.mpr hk
    rw [hretained] at hmem
    exact Expiry.not_expired (htime.imp fun hle hexp => lt_of_le_of_lt hle hexp) _ hmem

/-- At every point of every run whose clock never goes back the containers
are consistent, and whatever is evicted there are the oldest fragments. -/
theorem consistent_of_run (cfg : SenderConfig) (es : List SenderCall)
    (hclock : Forwards cfg ((Sender.new cfg).trace cfg es)) :
    ((Sender.machine cfg).run (Sender.new cfg) es).1.retention =
        ({} : Retention).after cfg ((Sender.new cfg).trace cfg es) ∧
      ∀ calls, calls <+: (Sender.new cfg).trace cfg es →
        (({} : Retention).after cfg calls).Consistent ∧
          ∀ (lNow : ℤ) (aRequiredBytes : ℕ),
            Evicts cfg (({} : Retention).after cfg calls) lNow
              ((({} : Retention).after cfg calls).evictOldRetention cfg lNow aRequiredBytes) := by
  refine ⟨Sender.run_retention cfg (Sender.new cfg) es, fun calls hcalls => ?_⟩
  have hrepresented := represented_empty.after cfg calls
  have htime : InTime (({} : Retention).after cfg calls).retained [] := by
    obtain ⟨rest, hrest⟩ := hcalls
    rw [← hrest, Forwards, List.flatMap_append] at hclock
    refine InTime.after represented_empty calls (List.pairwise_append.mp hclock).1 ⟨.nil, ?_⟩
    intro e he
    exact absurd he List.not_mem_nil
  exact ⟨hrepresented.consistent htime.ordered, hrepresented.evicts htime.ordered⟩

/-- Two superframes, of which the second finds the first expired. -/
def expiringRun : List SenderCall := [Sample.sendAt 0 10, Sample.sendAt 2000 300]

theorem consistent_of_expiringRun :
    (({} : Retention).after (SenderConfig.new 256 .single 1 1000)
      ((Sender.new (SenderConfig.new 256 .single 1 1000)).trace
        (SenderConfig.new 256 .single 1 1000) expiringRun)).Consistent :=
  ((consistent_of_run _ expiringRun (by decide +kernel)).2 _ (List.prefix_refl _)).1

/-! ### The byte cap -/

def retainedBytes (s : Retention) : ℕ :=
  (s.mRetentionBuffer.toList.map fun e => e.2.mData.length).sum

/-- A fragment that is retained in the place of another finds that one still
there after the eviction, or room for all of itself. -/
def ReplacesWithin (cfg : SenderConfig) (s : Retention) : StoreCall → Prop
  | .retain lNow _ aSuperFrameNo aFragmentNo _ apData =>
      Retains cfg apData →
      ∀ lExisting, s.mRetentionBuffer[makeRetentionKey aSuperFrameNo aFragmentNo]? =
          some lExisting →
        (makeRetentionKey aSuperFrameNo aFragmentNo, lExisting) ∈
            Expiry.expire size (Expired (cutoff cfg lNow)) cfg.mRetentionMaxBytes
              (apData.length - lExisting.mData.length) s.retained ∨
          Expiry.total size (Expiry.expire size (Expired (cutoff cfg lNow))
            cfg.mRetentionMaxBytes (apData.length - lExisting.mData.length) s.retained) +
              apData.length ≤ cfg.mRetentionMaxBytes
  | _ => True

theorem Represented.retainedBytes_eq {s : Retention} (h : s.Represented) :
    s.retainedBytes = Expiry.total size s.retained :=
  ((h.retained_perm.map size).sum_eq).symm

theorem Represented.retainedBytes_step {s : Retention} (h : s.Represented)
    (hcap : s.retainedBytes ≤ cfg.mRetentionMaxBytes) (call : StoreCall) :
    ((machine cfg).step s call).1.retainedBytes ≤ cfg.mRetentionMaxBytes ↔
      ReplacesWithin cfg s call := by
  obtain ⟨hs', hchanged⟩ := h.step cfg call
  rw [hs'.retainedBytes_eq]
  rw [h.retainedBytes_eq] at hcap
  have hkeys := h.retained_keys
  have hbuffer := @Represented.mem_retained s h
  generalize ((machine cfg).step s call).1.retained = left at hchanged ⊢
  generalize hl : s.retained = l at hchanged hcap hkeys hbuffer
  cases hchanged with
  | evict lNow => exact iff_of_true (Expiry.total_expire _ _ (Nat.zero_le _) l) trivial
  | request => exact iff_of_true hcap trivial
  | take => exact iff_of_true hcap trivial
  | skip _ _ _ _ _ _ _ hskip => exact iff_of_true hcap fun hretains => absurd hretains hskip
  | retry lKey =>
      refine iff_of_true (le_of_eq_of_le ?_ hcap) trivial
      rw [Expiry.total, Expiry.total, List.map_map]
      refine congrArg List.sum (List.map_congr_left fun e _ => ?_)
      rw [Function.comp_apply]
      split_ifs <;> rfl
  | retain lNow mTimestampUs aSuperFrameNo aFragmentNo aStreamId apData _ aRequiredBytes
      mGeneration hretains hrequired hfresh =>
      have hsize : apData.length ≤ cfg.mRetentionMaxBytes := by
        by_contra hlt
        exact hretains (.inr (not_le.mp hlt))
      rw [Expiry.total_append, Expiry.total_cons, Expiry.total_nil, Nat.add_zero]
      change _ + apData.length ≤ _ ↔ (Retains cfg apData → _)
      generalize makeRetentionKey aSuperFrameNo aFragmentNo = lKey at *
      have hsuffix := Expiry.expire_suffix size (Expired (cutoff cfg lNow))
        cfg.mRetentionMaxBytes aRequiredBytes l
      cases hexisting : s.mRetentionBuffer[lKey]? with
      | none =>
          have habsent : ∀ f, (lKey, f) ∉ l := fun f hf => by
            rw [hbuffer, hexisting] at hf
            cases hf
          have hroom := Expiry.total_expire size (Expired (cutoff cfg lNow))
            (show aRequiredBytes ≤ cfg.mRetentionMaxBytes by rw [hfresh habsent]; exact hsize) l
          rw [hfresh habsent] at hroom hsuffix ⊢
          rw [filter_of_absent fun f hf => habsent f (hsuffix.subset hf)]
          refine iff_of_true hroom fun _ lExisting hsome => ?_
          cases hsome
      | some lExisting =>
          have hmem := hbuffer.mpr hexisting
          have hroom := Expiry.total_expire size (Expired (cutoff cfg lNow))
            (show aRequiredBytes ≤ cfg.mRetentionMaxBytes by rw [hrequired _ hmem]; omega) l
          rw [hrequired _ hmem] at hroom hsuffix ⊢
          by_cases hleft : (lKey, lExisting) ∈ Expiry.expire size (Expired (cutoff cfg lNow))
              cfg.mRetentionMaxBytes (apData.length - lExisting.mData.length) l
          · have htotal := total_without (hkeys.sublist hsuffix.sublist) hleft
            refine iff_of_true ?_ fun _ f hf => .inl ?_
            · omega
            · rw [Option.some.injEq] at hf
              rwa [← hf, hl]
          · rw [filter_of_absent fun f hf => ?_]
            · constructor
              · intro hle _ f hf
                rw [Option.some.injEq] at hf
                rw [← hf, hl]
                exact .inr hle
              · intro hcond
                rcases hcond hretains lExisting rfl with hin | hle
                · rw [hl] at hin
                  exact absurd hin hleft
                · rwa [hl] at hle
            · have hsame := hbuffer.mp (hsuffix.subset hf)
              rw [hexisting, Option.some.injEq] at hsame
              rw [← hsame] at hf
              exact hleft hf

/-- The cap holds after every `retainFragment` of the calls. -/
def WithinCap (cfg : SenderConfig) (calls : List StoreCall) : Prop :=
  ∀ (before : List StoreCall) (lNow mTimestampUs : ℤ) (aSuperFrameNo aFragmentNo : UInt16)
    (aStreamId : UInt8) (apData : List UInt8),
    before ++ [.retain lNow mTimestampUs aSuperFrameNo aFragmentNo aStreamId apData] <+: calls →
      (({} : Retention).after cfg (before ++
        [.retain lNow mTimestampUs aSuperFrameNo aFragmentNo aStreamId apData])).retainedBytes ≤
          cfg.mRetentionMaxBytes

theorem withinCap_iff (calls : List StoreCall) :
    WithinCap cfg calls ↔
      ∀ before, before <+: calls →
        (({} : Retention).after cfg before).retainedBytes ≤ cfg.mRetentionMaxBytes := by
  refine ⟨fun h before => ?_, fun h before lNow mTimestampUs _ _ _ _ hpre => h _ hpre⟩
  induction before using List.reverseRecOn with
  | nil => exact fun _ => Nat.zero_le _
  | append_singleton before call ih =>
      intro hpre
      have hcap := ih ((List.prefix_append before [call]).trans hpre)
      have hstep := (represented_empty.after cfg before).retainedBytes_step hcap call
      rw [after_append]
      cases call with
      | evict lNow => exact hstep.mpr trivial
      | request lKey mStreamId => exact hstep.mpr trivial
      | take => exact hstep.mpr trivial
      | retain lNow mTimestampUs aSuperFrameNo aFragmentNo aStreamId apData =>
          rw [← after_append]
          exact h before lNow mTimestampUs aSuperFrameNo aFragmentNo aStreamId apData hpre

/-- In every run the retained bytes stay within the cap just as long as every
fragment that replaces another finds it still there or room for all of
itself. -/
theorem withinCap_run_iff (cfg : SenderConfig) (es : List SenderCall) :
    WithinCap cfg ((Sender.new cfg).trace cfg es) ↔
      (machine cfg).Along (ReplacesWithin cfg) {} ((Sender.new cfg).trace cfg es) := by
  rw [withinCap_iff]
  apply (machine cfg).run_prefix_iff (I := Represented)
    (P := fun s => s.retainedBytes ≤ cfg.mRetentionMaxBytes)
  · exact fun s call h => (h.step cfg call).1
  · exact fun s call h hcap => h.retainedBytes_step hcap call
  · exact represented_empty
  · exact Nat.zero_le _

end Retention

/-! ### Runs that use a superframe number again -/

namespace Sender

variable {cfg : SenderConfig}

/-- The header of `sendAt`, when the data fits a Type2. -/
def smallHeader (aSuperFrameNo : UInt16) (aSize : ℕ) : FrameType2 where
  mFrameType := makeFrameTypeByte .type2 0
  mStreamId := 1
  mPayloadType := 0
  mSizeOfData := UInt16.ofNat aSize
  mSuperFrameNo := aSuperFrameNo
  mOfFragmentNo := 0
  mType1PacketSize := 0
  mPts := 0
  mDtsPtsDiff := 0
  mPayloadCode := 0

def smallPacket (aSuperFrameNo : UInt16) (aSize : ℕ) : List UInt8 :=
  (smallHeader aSuperFrameNo aSize).bytes ++ List.replicate aSize 7

/-- The calls of `sendAt`, when the data fits a Type2. -/
def smallCalls (lNow : ℤ) (aSuperFrameNo : UInt16) (aSize : ℕ) : List StoreCall :=
  [.evict lNow,
    fragmentCall (Sample.clockAt lNow) aSuperFrameNo 0 1 (smallPacket aSuperFrameNo aSize)]

theorem sendable_sendAt {aSize : ℕ} (hpos : 0 < aSize)
    (hsmall : aSize ≤ cfg.mMtu - FrameType2.sizeof) :
    Sendable cfg (List.replicate aSize 7) := by
  have hmtu := cfg.mtu_lt
  have hlength : (List.replicate aSize (7 : UInt8)).length = aSize := List.length_replicate
  have h100 : maxSuperframeSize = 104857600 := rfl
  refine ⟨by simpa using Nat.pos_iff_ne_zero.mp hpos, by omega, ?_⟩
  rw [hlength, plan, if_pos hsmall]
  exact (by decide : 1 ≤ maxFragmentsPerSuperframe)

theorem storeCalls_sendAt (hsingle : cfg.mSubFragmentMode = .single) (hms : cfg.mRetentionMs > 0)
    (lNow : ℤ) {aSize : ℕ} (hpos : 0 < aSize) (hsmall : aSize ≤ cfg.mMtu - FrameType2.sizeof)
    (s : Sender) :
    s.storeCalls cfg (Sample.sendAt lNow aSize) = smallCalls lNow s.mSuperFrameNo aSize := by
  have hsendable := sendable_sendAt hpos hsmall
  have hchunk : chunk (List.replicate aSize (7 : UInt8)) 0 aSize = List.replicate aSize 7 :=
    List.take_of_length_le (le_of_eq List.length_replicate)
  simp only [storeCalls, Sample.sendAt, sendCalls]
  rw [if_neg fun h => h.elim hsendable.ne_nil (not_lt.mpr hsendable.size_le), if_pos hms,
    if_pos hsendable, superframeCalls, if_pos hsingle, planned, outgoing, mSuperFrameNo_evicted,
    List.length_replicate, plan, if_pos hsmall]
  simp only [type1Calls, tailCalls, Outgoing.packet2, Bool.false_eq_true, if_false, Nat.zero_mul,
    Nat.add_zero, hchunk]
  rfl

theorem sendAt_small (hsingle : cfg.mSubFragmentMode = .single) (hms : cfg.mRetentionMs > 0)
    (lNow : ℤ) {aSize : ℕ} (hpos : 0 < aSize) (hsmall : aSize ≤ cfg.mMtu - FrameType2.sizeof)
    (s : Sender) :
    ((Sender.machine cfg).step s (Sample.sendAt lNow aSize)).1.retention =
        s.retention.after cfg (smallCalls lNow s.mSuperFrameNo aSize) ∧
      ((Sender.machine cfg).step s (Sample.sendAt lNow aSize)).1.mSuperFrameNo =
        s.mSuperFrameNo + 1 := by
  refine ⟨by rw [step_retention, storeCalls_sendAt hsingle hms lNow hpos hsmall], ?_⟩
  rcases send_cases cfg (Sample.clockAt lNow) s (List.replicate aSize 7) Sample.sendArgs with
    ⟨-, hsend⟩ | ⟨hnot, -⟩
  · simp only [Sender.machine, Sample.sendAt, hsend]
    rw [mSuperFrameNo_sendPlanned, mSuperFrameNo_evicted]
  · exact absurd (sendable_sendAt hpos hsmall) hnot

theorem evictOldRetention_of_kept {s : Retention} {lOldest : RetentionOrderEntry}
    {rest : List RetentionOrderEntry} (horder : s.mRetentionOrder = lOldest :: rest) (lNow : ℤ)
    (hlive : (s.live lOldest.mKey lOldest.mGeneration).any
      (fun f => decide (Retention.cutoff cfg lNow ≤ f.mTimestampUs)) = true)
    (hbytes : s.mRetentionBufferBytes ≤ cfg.mRetentionMaxBytes) :
    s.evictOldRetention cfg lNow 0 = s := by
  obtain ⟨f, hf, hfresh⟩ := (Option.any_eq_true ..).mp hlive
  have hkeep : ¬ f.mTimestampUs < Retention.cutoff cfg lNow := not_lt.mpr (of_decide_eq_true hfresh)
  rw [Retention.evictOldRetention, horder, Retention.evictLoop, hf]
  dsimp only
  rw [if_pos ⟨hkeep, by omega⟩, ← horder]

/-- Superframes that are too large to retain use up their numbers and leave
the containers alone. -/
theorem sendAt_unretained (hsingle : cfg.mSubFragmentMode = .single) (hms : cfg.mRetentionMs > 0)
    (lNow : ℤ) {aSize : ℕ} (hpos : 0 < aSize) (hsmall : aSize ≤ cfg.mMtu - FrameType2.sizeof)
    (hlarge : cfg.mRetentionMaxBytes < FrameType2.sizeof + aSize) (n : ℕ) (s : Sender)
    (hkept : s.retention.evictOldRetention cfg lNow 0 = s.retention) :
    ((Sender.machine cfg).run s (List.replicate n (Sample.sendAt lNow aSize))).1.retention =
        s.retention ∧
      ((Sender.machine cfg).run s
          (List.replicate n (Sample.sendAt lNow aSize))).1.mSuperFrameNo =
        s.mSuperFrameNo + UInt16.ofNat n := by
  induction n generalizing s with
  | zero => exact ⟨rfl, (UInt16.add_zero _).symm⟩
  | succ n ih =>
      obtain ⟨hretention, hnumber⟩ := sendAt_small hsingle hms lNow hpos hsmall s
      have hlength : (smallPacket s.mSuperFrameNo aSize).length = FrameType2.sizeof + aSize := by
        rw [smallPacket, List.length_append, FrameType2.length_bytes, List.length_replicate]
        rfl
      have hskip : s.retention.after cfg (smallCalls lNow s.mSuperFrameNo aSize) =
          s.retention := by
        rw [smallCalls, Retention.after_cons]
        simp only [Retention.machine, hkept]
        rw [Retention.after_cons]
        apply Retention.retainFragment_of_not
        exact not_not.mpr (.inr (by rw [hlength]; exact hlarge))
      rw [hskip] at hretention
      obtain ⟨hrest, hrestNumber⟩ := ih _ (by rw [hretention]; exact hkept)
      rw [List.replicate_succ, Machine.run_cons]
      refine ⟨hrest.trans hretention, hrestNumber.trans ?_⟩
      rw [hnumber, UInt16.add_assoc, UInt16.add_comm 1, ← UInt16.ofNat_one, ← UInt16.ofNat_add]

end Sender

/-! ### A replacement that breaks the cap -/

namespace Sample

def cappedCfg : SenderConfig := SenderConfig.new 256 .single 1000 100

/-- Three fragments that fill the cap of 100 bytes. -/
def filledRun : List SenderCall := [sendAt 0 3, sendAt 0 8, sendAt 0 8]

def filled : Sender := ((Sender.machine cappedCfg).run (Sender.new cappedCfg) filledRun).1

/-- The numbers of 65533 superframes that are not retained, and then number 0
again, with 60 bytes instead of 30. -/
def replacedRun : List SenderCall :=
  filledRun ++ (List.replicate 65533 (sendAt 0 100) ++ [sendAt 0 33])

theorem filled_kept : filled.retention.evictOldRetention cappedCfg 0 0 = filled.retention := by
  have horder : filled.retention.mRetentionOrder = [⟨0, 1⟩, ⟨65536, 2⟩, ⟨131072, 3⟩] := by
    decide +kernel
  apply Sender.evictOldRetention_of_kept horder
  · decide +kernel
  · decide +kernel

theorem replacedRun_retention :
    ((Sender.machine cappedCfg).run (Sender.new cappedCfg) replacedRun).1.retention =
      filled.retention.after cappedCfg (Sender.smallCalls 0 0 33) := by
  have hms : cappedCfg.mRetentionMs > 0 := by decide
  have hsmall : 33 ≤ cappedCfg.mMtu - FrameType2.sizeof := by decide
  obtain ⟨hretention, hnumber⟩ := Sender.sendAt_unretained rfl hms 0 (by decide : 0 < 100)
    (by decide) (by decide) 65533 filled filled_kept
  obtain ⟨hlast, -⟩ := Sender.sendAt_small rfl hms 0 (by decide) hsmall
    ((Sender.machine cappedCfg).run filled (List.replicate 65533 (sendAt 0 100))).1
  rw [replacedRun, Machine.run_append, Machine.run_append]
  refine hlast.trans ?_
  rw [hretention, hnumber]
  rfl

end Sample

theorem not_withinCap_replacedRun :
    ¬ Retention.WithinCap Sample.cappedCfg
      ((Sender.new Sample.cappedCfg).trace Sample.cappedCfg Sample.replacedRun) := by
  rw [Retention.withinCap_iff]
  intro h
  have hcap := h _ (List.prefix_refl _)
  have hend := Sender.run_retention Sample.cappedCfg (Sender.new Sample.cappedCfg)
    Sample.replacedRun
  rw [Sample.replacedRun_retention] at hend
  change ((Sender.new Sample.cappedCfg).retention.after Sample.cappedCfg _).retainedBytes ≤ _
    at hcap
  rw [← hend] at hcap
  exact absurd hcap (by decide +kernel)

end ElasticFrame
