import ElasticFrame.Receiver.Reentrant
import ElasticFrame.Repair.Message
import ElasticFrame.Receiver.Selection

/-!
When NACKs are sent. The wait before a retry doubles with each one, up to
what remains of the frame's time; the doubling is a shift of a 64-bit number
by the retry count, and what remains can be nothing.
-/

namespace ElasticFrame

open Lib

/-- `lBaseDelayUs`. -/
def ReceiverConfig.nackBaseUs (cfg : ReceiverConfig) (jitter : JitterTracking) : ℤ :=
  if cfg.mNackIntervalMs > 0 then (cfg.mNackIntervalMs.toNat : ℤ) * 1000
  else max 10000 (jitter.mJitterUs * 4)

/-- What remains at `now` of the time of a frame, less a margin of 10 ms for
its delivery. -/
def Bucket.remainingUs (b : Bucket) (now : ℤ) : ℤ := max 0 (b.mTimeoutUs - now - 10000)

theorem ReceiverConfig.nackBaseUs_pos (cfg : ReceiverConfig) (jitter : JitterTracking) :
    0 < cfg.nackBaseUs jitter := by
  rw [nackBaseUs]
  split_ifs with h
  · have hpos : 0 < cfg.mNackIntervalMs.toNat := h
    omega
  · exact lt_of_lt_of_le (by norm_num) (le_max_left _ _)

theorem int64ShiftLeft_eq {x : ℤ} {n : ℕ} (hx : 0 ≤ x) (h : x * 2 ^ n < 2 ^ 63) :
    int64ShiftLeft x n = x * 2 ^ n := by
  have hnonneg : 0 ≤ x * 2 ^ n := Int.mul_nonneg hx (by positivity)
  apply Int.bmod_eq_of_le_mul_two
  · omega
  · omega

namespace Receiver

variable {B : BufferSize}

theorem calculateNackDelayUs_eq (cfg : ReceiverConfig) (r : Receiver B) (b : Bucket) (now : ℤ) :
    r.calculateNackDelayUs cfg b now =
      min (int64ShiftLeft (cfg.nackBaseUs r.jitter) b.mNackCount.toNat) (b.remainingUs now) := by
  have hremaining : (if b.mTimeoutUs - now - 10000 < 0 then 0 else b.mTimeoutUs - now - 10000) =
      b.remainingUs now := by
    rw [Bucket.remainingUs]
    split_ifs with h
    · exact (max_eq_left h.le).symm
    · exact (max_eq_right (not_lt.mp h)).symm
  rw [← hremaining]
  rfl

/-! ### The arithmetic of the delay -/

/-- The buckets that `processNacks` calculates a delay for, each with the
receiver as it is when their turn comes. -/
def examinedList (cfg : ReceiverConfig) (clk : PassClock) :
    List B.Index → Receiver B → List (Receiver B × B.Index)
  | [], _ => []
  | i :: is, r =>
      (if (r.mpBuckets i).complete ∨ (r.mpBuckets i).mNackCount ≥ cfg.mMaxNackRetries then []
        else [(r, i)]) ++ examinedList cfg clk is (r.processNack cfg clk i).1

def examined (cfg : ReceiverConfig) (clk : PassClock) (r : Receiver B) :
    List (Receiver B × B.Index) :=
  if cfg.mMaxNackRetries = 0 then [] else examinedList cfg clk r.pending r

/-- The delay of an examined bucket is computed within range. -/
structure DelayInRange (cfg : ReceiverConfig) (clk : PassClock) (x : Receiver B × B.Index) :
    Prop where
  count_lt : (x.1.mpBuckets x.2).mNackCount.toNat < 64
  shifted_lt : cfg.nackBaseUs x.1.jitter * 2 ^ (x.1.mpBuckets x.2).mNackCount.toNat < 2 ^ 63
  nonneg : 0 ≤ x.1.calculateNackDelayUs cfg (x.1.mpBuckets x.2)
    (clk.nackDelay (x.1.mpBuckets x.2).mDeliveryOrder)
  le_remaining : x.1.calculateNackDelayUs cfg (x.1.mpBuckets x.2)
      (clk.nackDelay (x.1.mpBuckets x.2).mDeliveryOrder) ≤
    max 0 ((x.1.mpBuckets x.2).mTimeoutUs -
      clk.nackDelay (x.1.mpBuckets x.2).mDeliveryOrder - 10000)

/-- The base delay, doubled for every retry but the last, fits. -/
def RetriesFit (cfg : ReceiverConfig) (jitter : JitterTracking) : Prop :=
  cfg.mMaxNackRetries = 0 ∨
    cfg.nackBaseUs jitter * 2 ^ (cfg.mMaxNackRetries.toNat - 1) < 2 ^ 63

theorem jitter_processNack (cfg : ReceiverConfig) (clk : PassClock) (r : Receiver B)
    (i : B.Index) : (r.processNack cfg clk i).1.jitter = r.jitter := by
  rw [processNack_eq]
  split_ifs <;> rfl

theorem examinedList_spec (cfg : ReceiverConfig) (clk : PassClock) (is : List B.Index)
    (r : Receiver B) : ∀ x ∈ examinedList cfg clk is r,
      x.1.jitter = r.jitter ∧ (x.1.mpBuckets x.2).mNackCount < cfg.mMaxNackRetries := by
  induction is generalizing r with
  | nil => exact fun x hx => absurd hx List.not_mem_nil
  | cons i is ih =>
      intro x hx
      rw [examinedList, List.mem_append] at hx
      rcases hx with hx | hx
      · split_ifs at hx with hskip
        · exact absurd hx List.not_mem_nil
        · obtain rfl := List.mem_singleton.mp hx
          exact ⟨rfl, UInt8.not_le.mp (not_or.mp hskip).2⟩
      · obtain ⟨hjitter, hretries⟩ := ih _ x hx
        exact ⟨hjitter.trans (jitter_processNack cfg clk r i), hretries⟩

theorem delayInRange_of_fits {cfg : ReceiverConfig} (clk : PassClock) {x : Receiver B × B.Index}
    (hretries : (x.1.mpBuckets x.2).mNackCount < cfg.mMaxNackRetries)
    (hfits : RetriesFit cfg x.1.jitter) : DelayInRange cfg clk x := by
  have hlt : (x.1.mpBuckets x.2).mNackCount.toNat < cfg.mMaxNackRetries.toNat := hretries
  have hpos := cfg.nackBaseUs_pos x.1.jitter
  have hbase : cfg.nackBaseUs x.1.jitter * 2 ^ (cfg.mMaxNackRetries.toNat - 1) < 2 ^ 63 := by
    refine hfits.resolve_left fun hzero => ?_
    rw [hzero] at hlt
    exact absurd hlt (Nat.not_lt_zero _)
  have hpow : (2 : ℤ) ^ (x.1.mpBuckets x.2).mNackCount.toNat ≤
      2 ^ (cfg.mMaxNackRetries.toNat - 1) := by
    apply pow_le_pow_right₀ (by norm_num)
    omega
  have hshifted : cfg.nackBaseUs x.1.jitter * 2 ^ (x.1.mpBuckets x.2).mNackCount.toNat < 2 ^ 63 :=
    (mul_le_mul_of_nonneg_left hpow hpos.le).trans_lt hbase
  have hcount : (x.1.mpBuckets x.2).mNackCount.toNat < 63 := by
    rw [← Nat.pow_lt_pow_iff_right (show 1 < 2 by norm_num)]
    have hle : (2 : ℤ) ^ (x.1.mpBuckets x.2).mNackCount.toNat ≤
        cfg.nackBaseUs x.1.jitter * 2 ^ (x.1.mpBuckets x.2).mNackCount.toNat :=
      le_mul_of_one_le_left (by positivity) hpos
    exact_mod_cast hle.trans_lt hshifted
  refine ⟨by omega, hshifted, ?_, ?_⟩
  · rw [calculateNackDelayUs_eq, int64ShiftLeft_eq hpos.le hshifted]
    exact le_min (Int.mul_nonneg hpos.le (by positivity)) (le_max_left _ _)
  · rw [calculateNackDelayUs_eq]
    exact min_le_right _ _

/-- In a run in which the retries fit at every pass, every delay is computed
within range. -/
theorem delayInRange_of_run (B : BufferSize) (cfg : ReceiverConfig) (cs : List Call)
    (hfits : (Receiver.machine B cfg).Along
      (fun r c => ∀ clk, c = .pass clk → RetriesFit cfg r.jitter) (Receiver.fresh B) cs) :
    (Receiver.machine B cfg).Along
      (fun r c => ∀ clk, c = .pass clk → ∀ x ∈ r.examined cfg clk, DelayInRange cfg clk x)
      (Receiver.fresh B) cs := by
  refine (Receiver.machine B cfg).along_of_invariant (I := fun _ => True)
    (fun _ _ _ _ => trivial) (fun r c _ hfits clk hc x hx => ?_) trivial hfits
  rw [examined] at hx
  split_ifs at hx
  · exact absurd hx List.not_mem_nil
  · obtain ⟨hjitter, hretries⟩ := examinedList_spec cfg clk r.pending r x hx
    refine delayInRange_of_fits clk hretries ?_
    rw [hjitter]
    exact hfits clk hc

/-! ### Retries at the end of the frame's time -/

theorem nackDue_congr {cfg : ReceiverConfig} {clk : PassClock} {r r' : Receiver B} {i : B.Index}
    (hbucket : r'.mpBuckets i = r.mpBuckets i) (hjitter : r'.jitter = r.jitter) :
    r'.nackDue cfg clk i = r.nackDue cfg clk i := by
  rw [nackDue, nackDue, nackTriggerUs, nackTriggerUs, calculateNackDelayUs_eq,
    calculateNackDelayUs_eq, hbucket, hjitter]

theorem processNack_other (cfg : ReceiverConfig) (clk : PassClock) {i j : B.Index} (h : i ≠ j)
    (r : Receiver B) : (r.processNack cfg clk j).1.mpBuckets i = r.mpBuckets i := by
  rw [processNack_eq]
  split_ifs
  · simp only [noteNack, setBucket]
    exact Function.update_of_ne h _ _
  · rfl

theorem processNackList_of_notMem {cfg : ReceiverConfig} {clk : PassClock} {i : B.Index}
    {is : List B.Index} (h : i ∉ is) (r : Receiver B) :
    (processNackList cfg clk is r).1.mpBuckets i = r.mpBuckets i := by
  induction is generalizing r with
  | nil => rfl
  | cons j is ih =>
      obtain ⟨hj, his⟩ := not_or.mp fun hmem => h (List.mem_cons.mpr hmem)
      exact (ih his _).trans (processNack_other cfg clk hj r)

/-- The loop of `processNacks` comes to each bucket once, and finds it as it
was. -/
theorem processNackList_turn (cfg : ReceiverConfig) (clk : PassClock) {i : B.Index}
    {is : List B.Index} (hnodup : is.Nodup) (hi : i ∈ is) (r : Receiver B) :
    ((processNackList cfg clk is r).1.mpBuckets i =
        if r.nackDue cfg clk i then (r.noteNack clk i).mpBuckets i else r.mpBuckets i) ∧
      (¬ ((r.mpBuckets i).complete ∨ (r.mpBuckets i).mNackCount ≥ cfg.mMaxNackRetries) →
        ∃ s, (s, i) ∈ examinedList cfg clk is r ∧ s.mpBuckets i = r.mpBuckets i ∧
          s.jitter = r.jitter) := by
  induction is generalizing r with
  | nil => exact absurd hi List.not_mem_nil
  | cons j is ih =>
      obtain ⟨hj, hnodup⟩ := List.nodup_cons.mp hnodup
      rcases List.mem_cons.mp hi with rfl | hmem
      · constructor
        · rw [processNackList]
          refine (processNackList_of_notMem hj _).trans ?_
          rw [processNack_eq]
          split_ifs <;> rfl
        · intro hopen
          refine ⟨r, ?_, rfl, rfl⟩
          rw [examinedList, if_neg hopen]
          exact List.mem_append_left _ (List.mem_singleton.mpr rfl)
      · have hne : i ≠ j := fun heq => hj (heq ▸ hmem)
        have hbucket := processNack_other cfg clk hne r
        have hjitter := jitter_processNack cfg clk r j
        obtain ⟨hturn, hexamined⟩ := ih hnodup hmem (r.processNack cfg clk j).1
        rw [nackDue_congr hbucket hjitter, hbucket] at hturn
        constructor
        · refine hturn.trans ?_
          have hnote : ((r.processNack cfg clk j).1.noteNack clk i).mpBuckets i =
              (r.noteNack clk i).mpBuckets i := by
            simp only [noteNack, setBucket, Function.update_self, hbucket]
          rw [hnote]
        · rw [hbucket, hjitter] at hexamined
          intro hopen
          obtain ⟨s, hs, hsame⟩ := hexamined hopen
          exact ⟨s, List.mem_append_right _ hs, hsame⟩

theorem deliverFrames_of_notMem {i : B.Index} {is : List B.Index} (h : i ∉ is) (r : Receiver B) :
    (deliverFrames is r).1.mpBuckets i = r.mpBuckets i := by
  induction is generalizing r with
  | nil => rfl
  | cons j is ih =>
      obtain ⟨hj, his⟩ := not_or.mp fun hmem => h (List.mem_cons.mpr hmem)
      refine (ih his _).trans ?_
      rw [deliverFrame.eq_def]
      dsimp only
      split
      · rfl
      · exact Function.update_of_ne hj _ _

/-- A bucket opened at 1 waits for a fragment; `n` NACKs have been sent, the
last of them not after the last microsecond of its time. -/
structure Waiting (cfg : ReceiverConfig) (i : B.Index) (n : ℕ) (r : Receiver B) : Prop where
  represented : r.Represented
  active : (r.mpBuckets i).mActive = true
  timeout : (r.mpBuckets i).mTimeoutUs = 1 + (cfg.mTimeoutMs * 1000).toNat
  first : (r.mpBuckets i).mFirstArrivalUs = 1
  missing : (r.mpBuckets i).Missing 0
  last : (r.mpBuckets i).mLastNackUs ≤ (cfg.mTimeoutMs * 1000).toNat
  count : (r.mpBuckets i).mNackCount.toNat = n
  jitter : r.jitter.mJitterUs = 10000

/-- A pass in the last microsecond of the bucket's time. -/
def lastClock (cfg : ReceiverConfig) : PassClock where
  timeouts := (cfg.mTimeoutMs * 1000).toNat
  nacks := (cfg.mTimeoutMs * 1000).toNat
  nackDelay _ := (cfg.mTimeoutMs * 1000).toNat

theorem jitter_processTimeouts (cfg : ReceiverConfig) (clk : PassClock) (r : Receiver B) :
    (r.processTimeouts cfg clk).1.jitter = r.jitter := by
  have hnacks : ∀ (is : List B.Index) (r : Receiver B),
      (processNackList cfg clk is r).1.jitter = r.jitter := by
    intro is
    induction is with
    | nil => exact fun _ => rfl
    | cons i is ih => exact fun r => (ih _).trans (jitter_processNack cfg clk r i)
  have hdeliver : ∀ (is : List B.Index) (r : Receiver B),
      (deliverFrames is r).1.jitter = r.jitter := by
    intro is
    induction is with
    | nil => exact fun _ => rfl
    | cons i is ih =>
        intro r
        refine (ih _).trans ?_
        rw [deliverFrame.eq_def]
        dsimp only
        split <;> rfl
  refine (hdeliver _ _).trans ?_
  rw [processNacks]
  split_ifs
  · rfl
  · exact hnacks _ r

theorem Waiting.incomplete {cfg : ReceiverConfig} {i : B.Index} {n : ℕ} {r : Receiver B}
    (h : Waiting cfg i n r) : (r.mpBuckets i).complete = false := by
  rw [← Bool.not_eq_true, (h.represented.wellFormed i h.active).complete_iff]
  exact fun hall => h.missing.2 (hall 0 h.missing.1)

theorem Waiting.nackDue {cfg : ReceiverConfig} {i : B.Index} {n : ℕ} {r : Receiver B}
    (h : Waiting cfg i n r) (htime : cfg.mTimeoutMs * 1000 ≠ 0)
    (hn : n < cfg.mMaxNackRetries.toNat) : r.nackDue cfg (lastClock cfg) i = true := by
  have hpos : 0 < (cfg.mTimeoutMs * 1000).toNat :=
    Nat.pos_of_ne_zero fun hzero => htime (UInt32.toNat_inj.mp hzero)
  have hsome : (r.mpBuckets i).buildNack ≠ [] := by
    rw [Ne, Bucket.buildNack_eq_nil_iff]
    exact fun hnone => hnone 0 h.missing
  have hdelay : r.calculateNackDelayUs cfg (r.mpBuckets i)
      ((lastClock cfg).nackDelay (r.mpBuckets i).mDeliveryOrder) ≤ 0 := by
    rw [calculateNackDelayUs_eq, Bucket.remainingUs, h.timeout, lastClock]
    refine (min_le_right _ _).trans (max_le le_rfl ?_)
    dsimp only
    omega
  have htrigger : r.nackTriggerUs cfg (lastClock cfg) i ≤ (lastClock cfg).nacks := by
    have hlast := h.last
    have hfirst := h.first
    rw [nackTriggerUs]
    show _ ≤ ((cfg.mTimeoutMs * 1000).toNat : ℤ)
    split_ifs
    · omega
    · omega
  have hretries : (r.mpBuckets i).mNackCount < cfg.mMaxNackRetries :=
    UInt8.lt_iff_toNat_lt.mpr (h.count.symm ▸ hn)
  simp only [Receiver.nackDue, h.incomplete, hretries, htrigger, hsome, Bool.not_false, ne_eq,
    not_false_eq_true, decide_true, Bool.and_true]

theorem Waiting.pass {cfg : ReceiverConfig} {i : B.Index} {n : ℕ} {r : Receiver B}
    (h : Waiting cfg i n r) (hhol : cfg.mHolTimeoutMs = 0) (htime : cfg.mTimeoutMs * 1000 ≠ 0)
    (hn : n < cfg.mMaxNackRetries.toNat) :
    Waiting cfg i (n + 1) (r.processTimeouts cfg (lastClock cfg)).1 := by
  have halike := r.processNacks_alike cfg (lastClock cfg)
  have hdue : ((r.processNacks cfg (lastClock cfg)).1.mpBuckets i).due cfg
      (lastClock cfg).timeouts = false := by
    have hlate : ¬ (r.mpBuckets i).mTimeoutUs ≤ (lastClock cfg).timeouts := by
      rw [h.timeout]
      show ¬ 1 + ((cfg.mTimeoutMs * 1000).toNat : ℤ) ≤ (cfg.mTimeoutMs * 1000).toNat
      omega
    rw [← halike.bucket_eq (fun b => b.due cfg _) (fun _ => rfl), ← Bool.not_eq_true,
      Bucket.due_iff, h.incomplete, hhol]
    simp [hlate]
  have hbucket : (r.processTimeouts cfg (lastClock cfg)).1.mpBuckets i =
      (r.noteNack (lastClock cfg) i).mpBuckets i := by
    have hzero : cfg.mMaxNackRetries ≠ 0 := fun hzero => by simp [hzero] at hn
    obtain ⟨hturn, -⟩ := processNackList_turn cfg (lastClock cfg) h.represented.nodup_pending
      (h.represented.mem_pending.mpr h.active) r
    rw [if_pos (h.nackDue htime hn)] at hturn
    have hnacked : (r.processNacks cfg (lastClock cfg)).1.mpBuckets i =
        (r.noteNack (lastClock cfg) i).mpBuckets i := by
      rw [processNacks, if_neg hzero]
      exact hturn
    refine (deliverFrames_of_notMem (fun hmem => ?_) _).trans hnacked
    rw [List.mem_insertionSort, List.mem_filter, hdue] at hmem
    cases hmem.2
  have hnoted : (r.noteNack (lastClock cfg) i).mpBuckets i =
      { r.mpBuckets i with
        mLastNackUs := (cfg.mTimeoutMs * 1000).toNat
        mNackCount := (r.mpBuckets i).mNackCount + 1 } := by
    simp only [noteNack, setBucket, Function.update_self, lastClock]
  rw [hnoted] at hbucket
  have hcount : ((r.mpBuckets i).mNackCount + 1).toNat = n + 1 := by
    have hlt := cfg.mMaxNackRetries.toNat_lt
    rw [UInt8.toNat_add, h.count, UInt8.toNat_one]
    exact Nat.mod_eq_of_lt (by omega)
  refine ⟨h.represented.passed_represented (h.represented.passed cfg (lastClock cfg)).1, ?_, ?_,
    ?_, ?_, ?_, ?_, ?_⟩
  · rw [hbucket]
    exact h.active
  · rw [hbucket]
    exact h.timeout
  · rw [hbucket]
    exact h.first
  · rw [hbucket]
    exact h.missing
  · rw [hbucket]
  · rw [hbucket]
    exact hcount
  · rw [jitter_processTimeouts]
    exact h.jitter

/-- The first packet of a superframe of two arrives at 1, and passes follow in
the last microsecond of its time. -/
def lastRun (cfg : ReceiverConfig) : List Call :=
  .packet { nowUs := fun _ => 1, memalign := fun _ => true } (Sample.type2 0 1 4 [7]) 0 ::
    List.replicate cfg.mMaxNackRetries.toNat (.pass (lastClock cfg))

theorem waiting_opened (B : BufferSize) (cfg : ReceiverConfig) :
    Waiting cfg (B.index 0) 0 ((Receiver.fresh B).dispatch cfg
      { nowUs := fun _ => 1, memalign := fun _ => true } (Sample.type2 0 1 4 [7]) 0).1 := by
  have hrep := represented_dispatch (represented_fresh (B := B)) cfg
    { nowUs := fun _ => 1, memalign := fun _ => true } (Sample.type2 0 1 4 [7]) 0
  have hdispatch : (Receiver.fresh B).dispatch cfg
      { nowUs := fun _ => 1, memalign := fun _ => true } (Sample.type2 0 1 4 [7]) 0 =
      (Receiver.fresh B).act cfg 1 true 0 (.type2 (Sample.type2 0 1 4 [7])) .open :=
    handle_eq cfg (Receiver.fresh B) 1 true 0 (.type2 (Sample.type2 0 1 4 [7]))
  rw [hdispatch] at hrep ⊢
  have hhas := (act_open_of_alloc cfg (Receiver.fresh B) 1 true 0
    (.type2 (Sample.type2 0 1 4 [7])) (by decide)).2
  have hbucket : (((Receiver.fresh B).act cfg 1 true 0 (.type2 (Sample.type2 0 1 4 [7]))
      .open).1.mpBuckets (B.index 0)) = _ :=
    (congrFun hhas.mpBuckets _).trans (Function.update_self _ _ _)
  refine ⟨hrep, by rw [hbucket]; rfl, by rw [hbucket]; rfl, by rw [hbucket]; rfl, ?_, ?_,
    by rw [hbucket]; rfl, ?_⟩
  · rw [hbucket]
    exact ⟨Nat.zero_le _, show 0 ∉ ({1} : Finset ℕ) by decide⟩
  · rw [hbucket]
    exact Int.natCast_nonneg _
  · rfl

/-- The last of these passes reckons with every retry but the last. -/
theorem not_inRange_lastRun (B : BufferSize) (cfg : ReceiverConfig) (hhol : cfg.mHolTimeoutMs = 0)
    (htime : cfg.mTimeoutMs * 1000 ≠ 0) (hfits : ¬ RetriesFit cfg {}) :
    ¬ (Receiver.machine B cfg).Along
      (fun r c => ∀ clk, c = .pass clk → ∀ x ∈ r.examined cfg clk, DelayInRange cfg clk x)
      (Receiver.fresh B) (lastRun cfg) := by
  obtain ⟨hzero, hlarge⟩ := not_or.mp hfits
  have hpos : 0 < cfg.mMaxNackRetries.toNat :=
    Nat.pos_of_ne_zero fun h => hzero (UInt8.toNat_inj.mp h)
  have hpasses : ∀ k n r, Waiting cfg (B.index 0) n r → n + (k + 1) = cfg.mMaxNackRetries.toNat →
      ¬ (Receiver.machine B cfg).Along
        (fun r c => ∀ clk, c = .pass clk → ∀ x ∈ r.examined cfg clk, DelayInRange cfg clk x)
        r (List.replicate (k + 1) (.pass (lastClock cfg))) := by
    intro k
    induction k with
    | zero =>
        rintro n r h hn ⟨hpass, -⟩
        obtain ⟨-, hturn⟩ := processNackList_turn cfg (lastClock cfg) h.represented.nodup_pending
          (h.represented.mem_pending.mpr h.active) r
        have hretries : ¬ ((r.mpBuckets (B.index 0)).complete ∨
            (r.mpBuckets (B.index 0)).mNackCount ≥ cfg.mMaxNackRetries) := by
          rw [h.incomplete]
          refine not_or.mpr ⟨by decide, UInt8.not_le.mpr (UInt8.lt_iff_toNat_lt.mpr ?_)⟩
          rw [h.count]
          omega
        obtain ⟨s, hs, hbucket, hjitter⟩ := hturn hretries
        have hin := hpass (lastClock cfg) rfl (s, B.index 0) (by
          rw [examined, if_neg hzero]
          exact hs)
        refine hlarge ?_
        have hshifted := hin.shifted_lt
        have hbase : cfg.nackBaseUs s.jitter = cfg.nackBaseUs {} := by
          rw [ReceiverConfig.nackBaseUs, ReceiverConfig.nackBaseUs, hjitter, h.jitter]
        dsimp only at hshifted
        rw [hbase, hbucket, h.count] at hshifted
        rw [show cfg.mMaxNackRetries.toNat - 1 = n by omega]
        exact hshifted
    | succ k ih =>
        rintro n r h hn ⟨-, hrest⟩
        exact ih (n + 1) _ (h.pass hhol htime (by omega)) (by omega) hrest
  obtain ⟨k, hk⟩ := Nat.exists_eq_succ_of_ne_zero hpos.ne'
  rintro ⟨-, hrun⟩
  rw [hk] at hrun
  exact hpasses k 0 _ (waiting_opened B cfg) (by omega) hrun

/-! ### The pace of the retries -/

/-- What happens to a bucket as far as NACKs go: it is opened, or a NACK is
sent for it, when so much remained of its time and so many had been sent. -/
inductive NackEvent
  | opened
  | nack (sentAt remainingUs : ℤ) (mNackCount : ℕ)
  deriving DecidableEq

/-- `mLastNackUs` after the event. -/
def NackEvent.lastNackUs : NackEvent → ℤ
  | .opened => 0
  | .nack sentAt _ _ => sentAt

/-- The buckets that the loop of `processNacks` sends a NACK for, each with the
receiver as it is when their turn comes. -/
def nackedList (cfg : ReceiverConfig) (clk : PassClock) :
    List B.Index → Receiver B → List (Receiver B × B.Index)
  | [], _ => []
  | i :: is, r =>
      (if r.nackDue cfg clk i then [(r, i)] else []) ++
        nackedList cfg clk is (r.processNack cfg clk i).1

theorem processNackList_nacks (cfg : ReceiverConfig) (clk : PassClock) (is : List B.Index)
    (r : Receiver B) : (processNackList cfg clk is r).2 =
      (nackedList cfg clk is r).map fun x => (x.1.mpBuckets x.2).buildNack := by
  induction is generalizing r with
  | nil => rfl
  | cons i is ih =>
      rw [processNackList, nackedList, List.map_append, ← ih, processNack_eq]
      split_ifs <;> rfl

def nackEvent (clk : PassClock) (i : B.Index) (r : Receiver B) : NackEvent :=
  let b := r.mpBuckets i
  .nack clk.nacks (b.remainingUs (clk.nackDelay b.mDeliveryOrder)) b.mNackCount.toNat

/-- The NACKs that the loop of `processNacks` sends for bucket `i`. -/
def nackEvents (cfg : ReceiverConfig) (clk : PassClock) (i : B.Index) (is : List B.Index)
    (r : Receiver B) : List NackEvent :=
  ((nackedList cfg clk is r).filter fun x => x.2 = i).map fun x => nackEvent clk i x.1

theorem nackEvents_cons (cfg : ReceiverConfig) (clk : PassClock) (i j : B.Index)
    (js : List B.Index) (r : Receiver B) : nackEvents cfg clk i (j :: js) r =
      (if j = i ∧ r.nackDue cfg clk i then [nackEvent clk i r] else []) ++
        nackEvents cfg clk i js (r.processNack cfg clk j).1 := by
  rw [nackEvents, nackedList, List.filter_append, List.map_append]
  by_cases hj : j = i
  · subst hj
    by_cases hdue : r.nackDue cfg clk j = true
    · rw [if_pos hdue, if_pos ⟨rfl, hdue⟩]
      simp [nackEvents]
    · rw [if_neg hdue, if_neg (not_and_of_not_right _ hdue)]
      rfl
  · rw [if_neg (not_and_of_not_left _ hj)]
    split_ifs <;> simp [hj, nackEvents]

/-- The receiver, putting out what happens to bucket `i`. -/
def nackLog (B : BufferSize) (cfg : ReceiverConfig) (i : B.Index) :
    Machine (Receiver B) Call NackEvent where
  step r
    | .packet env aData aSourceId =>
        let r' := (r.dispatch cfg env aData aSourceId).1
        (r', if (r.mpBuckets i).mActive = false ∧ (r'.mpBuckets i).mActive = true then [.opened]
          else [])
    | .pass clk =>
        ((r.processTimeouts cfg clk).1,
          if cfg.mMaxNackRetries = 0 then [] else nackEvents cfg clk i r.pending r)

/-- The second of two NACKs in a row waits for the interval, or for what
remains of the frame's time if that is less. Time 0 marks a bucket without a
NACK. -/
def Paced (cfg : ReceiverConfig) : NackEvent → NackEvent → Prop
  | .nack sentAt _ _, .nack sentAt' remainingUs mNackCount =>
      sentAt ≠ 0 → (cfg.mNackIntervalMs.toNat : ℤ) * 1000 * 2 ^ mNackCount < 2 ^ 63 →
        min ((cfg.mNackIntervalMs.toNat : ℤ) * 1000) remainingUs ≤ sentAt' - sentAt
  | _, _ => True

/-- The log of a bucket is paced, and its last entry is what the bucket
remembers while it is open. -/
structure Logged (cfg : ReceiverConfig) (i : B.Index) (r : Receiver B) (log : List NackEvent) :
    Prop where
  paced : log.IsChain (Paced cfg)
  last : (r.mpBuckets i).mActive = true →
    ∃ e ∈ log.getLast?, (r.mpBuckets i).mLastNackUs = e.lastNackUs

theorem Logged.of_eq {cfg : ReceiverConfig} {i : B.Index} {r r' : Receiver B}
    {log : List NackEvent} (h : Logged cfg i r log)
    (hactive : (r'.mpBuckets i).mActive = true → (r.mpBuckets i).mActive = true ∧
      (r'.mpBuckets i).mLastNackUs = (r.mpBuckets i).mLastNackUs) : Logged cfg i r' log := by
  refine ⟨h.paced, fun hact => ?_⟩
  obtain ⟨hact', hlast⟩ := hactive hact
  rw [hlast]
  exact h.last hact'

theorem paced_of_nackDue {cfg : ReceiverConfig} (hinterval : 0 < cfg.mNackIntervalMs)
    {clk : PassClock} {r : Receiver B} {i : B.Index} (hdue : r.nackDue cfg clk i = true)
    {e : NackEvent} (hlast : (r.mpBuckets i).mLastNackUs = e.lastNackUs) :
    Paced cfg e (nackEvent clk i r) := by
  cases e with
  | opened => trivial
  | nack sentAt remainingUs mNackCount =>
      intro hne hfits
      have hbase : cfg.nackBaseUs r.jitter = (cfg.mNackIntervalMs.toNat : ℤ) * 1000 :=
        if_pos hinterval
      have hpos := cfg.nackBaseUs_pos r.jitter
      have htrigger : r.nackTriggerUs cfg clk i ≤ clk.nacks := by
        simp only [nackDue, Bool.and_eq_true, decide_eq_true_iff] at hdue
        exact hdue.1.2
      have hsent : (r.mpBuckets i).mLastNackUs = sentAt := hlast
      rw [nackTriggerUs, if_neg (hsent ▸ hne), hsent, calculateNackDelayUs_eq, hbase,
        int64ShiftLeft_eq (hbase ▸ hpos.le) hfits] at htrigger
      have hdoubled : (cfg.mNackIntervalMs.toNat : ℤ) * 1000 ≤
          (cfg.mNackIntervalMs.toNat : ℤ) * 1000 * 2 ^ (r.mpBuckets i).mNackCount.toNat :=
        le_mul_of_one_le_right (hbase ▸ hpos.le) (one_le_pow₀ (by norm_num))
      have hmin := min_le_min_right
        ((r.mpBuckets i).remainingUs (clk.nackDelay (r.mpBuckets i).mDeliveryOrder)) hdoubled
      omega

theorem Logged.processNack {cfg : ReceiverConfig} (hinterval : 0 < cfg.mNackIntervalMs)
    {clk : PassClock} {i : B.Index} {r : Receiver B} {log : List NackEvent}
    (h : Logged cfg i r log) (hactive : (r.mpBuckets i).mActive = true) (j : B.Index) :
    Logged cfg i (r.processNack cfg clk j).1
      (log ++ if j = i ∧ r.nackDue cfg clk i then [nackEvent clk i r] else []) := by
  obtain ⟨e, he, hlast⟩ := h.last hactive
  rw [processNack_eq]
  by_cases hj : j = i
  · subst hj
    by_cases hdue : r.nackDue cfg clk j = true
    · rw [if_pos hdue, if_pos ⟨rfl, hdue⟩]
      refine ⟨h.paced.append (List.isChain_singleton _) ?_, fun _ => ?_⟩
      · intro e' he' e'' he''
        obtain rfl := Option.mem_unique he he'
        cases he''
        exact paced_of_nackDue hinterval hdue hlast
      · rw [List.getLast?_concat]
        refine ⟨_, rfl, ?_⟩
        simp [noteNack, setBucket, nackEvent, NackEvent.lastNackUs]
    · rw [if_neg hdue, if_neg (not_and_of_not_right _ hdue), List.append_nil]
      exact h
  · rw [if_neg (not_and_of_not_left _ hj), List.append_nil]
    refine h.of_eq fun hact => ?_
    have hsame : ((if r.nackDue cfg clk j then (r.noteNack clk j, [(r.mpBuckets j).buildNack])
        else (r, [])).1.mpBuckets i) = r.mpBuckets i := by
      split_ifs
      · simp only [noteNack, setBucket]
        exact Function.update_of_ne (Ne.symm hj) _ _
      · rfl
    exact ⟨hactive, by rw [hsame]⟩

theorem Logged.processNackList {cfg : ReceiverConfig} (hinterval : 0 < cfg.mNackIntervalMs)
    {clk : PassClock} {i : B.Index} (js : List B.Index) {r : Receiver B} {log : List NackEvent}
    (h : Logged cfg i r log) (hactive : (r.mpBuckets i).mActive = true) :
    Logged cfg i (processNackList cfg clk js r).1 (log ++ nackEvents cfg clk i js r) := by
  induction js generalizing r log with
  | nil =>
      show Logged cfg i r (log ++ [])
      rw [List.append_nil]
      exact h
  | cons j js ih =>
      rw [nackEvents_cons, ← List.append_assoc]
      refine ih (h.processNack hinterval hactive j) ?_
      rw [← (r.processNack_alike cfg clk j).bucket_eq Bucket.mActive (fun _ => rfl)]
      exact hactive

theorem nackEvents_of_notMem {cfg : ReceiverConfig} {clk : PassClock} {i : B.Index}
    {js : List B.Index} (h : i ∉ js) (r : Receiver B) : nackEvents cfg clk i js r = [] := by
  induction js generalizing r with
  | nil => rfl
  | cons j js ih =>
      obtain ⟨hj, hjs⟩ := not_or.mp fun hmem => h (List.mem_cons.mpr hmem)
      rw [nackEvents_cons, ih hjs, if_neg fun hboth => hj hboth.1.symm]
      rfl

theorem deliverFrames_bucket (is : List B.Index) (r : Receiver B) (i : B.Index) :
    (deliverFrames is r).1.mpBuckets i = r.mpBuckets i ∨
      ((deliverFrames is r).1.mpBuckets i).mActive = false := by
  induction is generalizing r with
  | nil => exact .inl rfl
  | cons j is ih =>
      have hstep : (r.deliverFrame j).1.mpBuckets i = r.mpBuckets i ∨
          ((r.deliverFrame j).1.mpBuckets i).mActive = false := by
        rw [deliverFrame.eq_def]
        dsimp only
        split
        · exact .inl rfl
        · by_cases hi : i = j
          · subst hi
            refine .inr ?_
            simp [setBucket]
          · refine .inl ?_
            simp only [setBucket]
            exact Function.update_of_ne hi _ _
      rcases ih (r.deliverFrame j).1 with hsame | hclosed
      · rcases hstep with hstep | hstep
        · exact .inl (hsame.trans hstep)
        · exact .inr (by rw [deliverFrames, hsame, hstep])
      · exact .inr hclosed

/-- Two NACKs in a row for a bucket are paced, in every run. -/
theorem paced_of_run (B : BufferSize) (cfg : ReceiverConfig)
    (hinterval : 0 < cfg.mNackIntervalMs) (i : B.Index) (cs : List Call) :
    ((nackLog B cfg i).run (Receiver.fresh B) cs).2.IsChain (Paced cfg) := by
  have hfresh : (Receiver.fresh B).Represented ∧ Logged cfg i (Receiver.fresh B) [] :=
    ⟨represented_fresh, List.isChain_nil, fun hact => by simp [fresh] at hact⟩
  refine (And.right ((nackLog B cfg i).run_history
    (I := fun r log => r.Represented ∧ Logged cfg i r log) (C := fun _ _ => True)
    (fun r log c h _ => ?_) hfresh
    ((nackLog B cfg i).along_of_forall (fun _ _ _ => trivial) _))).paced
  obtain ⟨hrep, hlog⟩ := h
  cases c with
  | packet env aData src =>
      refine ⟨represented_dispatch hrep cfg env aData src, ?_⟩
      have hkept := kept_dispatch cfg r env aData src
      simp only [nackLog]
      cases hold : (r.mpBuckets i).mActive with
      | true =>
          rw [if_neg fun hnew => absurd hnew.1 (by decide), List.append_nil]
          exact hlog.of_eq fun _ => ⟨hold, (hkept.active i hold).2.2.2⟩
      | false =>
          split_ifs with hnew
          · refine ⟨hlog.paced.append (List.isChain_singleton _) ?_, fun hact => ?_⟩
            · intro e _ e' he'
              cases he'
              cases e <;> trivial
            · rw [List.getLast?_concat]
              exact ⟨.opened, rfl, (hkept.opened i hold hact).2⟩
          · rw [List.append_nil]
            exact hlog.of_eq fun hact => absurd ⟨rfl, hact⟩ hnew
  | pass clk =>
      refine ⟨hrep.passed_represented (hrep.passed cfg clk).1, ?_⟩
      have halike := r.processNacks_alike cfg clk
      have hnacked : Logged cfg i (r.processNacks cfg clk).1
          (log ++ if cfg.mMaxNackRetries = 0 then [] else nackEvents cfg clk i r.pending r) := by
        cases hact : (r.mpBuckets i).mActive with
        | true =>
            rw [processNacks]
            split_ifs with hzero
            · rw [List.append_nil]
              exact hlog
            · exact hlog.processNackList hinterval r.pending hact
        | false =>
            have hnone : nackEvents cfg clk i r.pending r = [] := by
              apply nackEvents_of_notMem
              rw [hrep.mem_pending, hact]
              decide
            rw [hnone, ite_self, List.append_nil]
            refine hlog.of_eq fun hact' => ?_
            rw [← halike.bucket_eq Bucket.mActive (fun _ => rfl), hact] at hact'
            cases hact'
      refine hnacked.of_eq fun hact => ?_
      have hbucket := deliverFrames_bucket
        ((r.processNacks cfg clk).1.selected cfg clk.timeouts) (r.processNacks cfg clk).1 i
      rcases hbucket with hsame | hclosed
      · exact ⟨hsame ▸ hact, congrArg Bucket.mLastNackUs hsame⟩
      · exact absurd (hclosed.symm.trans hact) (by decide)

end Receiver

/-! ### Sample configurations -/

namespace Sample

/-- As many retries as there can be, at the adaptive interval. -/
def retryingCfg : ReceiverConfig := { mMaxNackRetries := 255 }

/-- Three retries, 20 ms apart. -/
def pacedCfg : ReceiverConfig := { mNackIntervalMs := 20 }

def passAt (now : ℤ) : Call := .pass { timeouts := now, nacks := now, nackDelay := fun _ => now }

/-- The first packet of a superframe of two arrives at 1. -/
def firstOfTwo : Call :=
  .packet { nowUs := fun _ => 1, memalign := fun _ => true } (type2 0 1 4 [7]) 0

end Sample

namespace Receiver

theorem delayInRange_of_run_paced :
    (Receiver.machine .default Sample.pacedCfg).Along
      (fun r c => ∀ clk, c = .pass clk → ∀ x ∈ r.examined Sample.pacedCfg clk,
        DelayInRange Sample.pacedCfg clk x)
      (Receiver.fresh .default) (lastRun Sample.pacedCfg) := by
  refine delayInRange_of_run .default Sample.pacedCfg _ ?_
  refine Machine.along_of_forall _ (fun r c _ clk _ => .inr ?_) _
  rw [show Sample.pacedCfg.nackBaseUs r.jitter = 20000 from rfl]
  decide

theorem not_inRange_retrying :
    Sample.retryingCfg.accepted = true ∧
      ¬ (Receiver.machine .default Sample.retryingCfg).Along
        (fun r c => ∀ clk, c = .pass clk → ∀ x ∈ r.examined Sample.retryingCfg clk,
          DelayInRange Sample.retryingCfg clk x)
        (Receiver.fresh .default) (lastRun Sample.retryingCfg) := by
  refine ⟨by decide, not_inRange_lastRun .default Sample.retryingCfg rfl (by decide) ?_⟩
  rintro (hzero | hfits)
  · exact absurd hzero (by decide)
  · rw [show Sample.retryingCfg.nackBaseUs {} = 40000 from rfl] at hfits
    exact absurd hfits (by decide)

/-- Two NACKs, the second after what remains of the frame's time. -/
theorem paced_of_run_sample :
    let log := ((nackLog .default Sample.pacedCfg 0).run (Receiver.fresh .default)
      [Sample.firstOfTwo, Sample.passAt 25000, Sample.passAt 70000]).2
    log = [.opened, .nack 25000 65001 0, .nack 70000 20001 1] ∧
      log.IsChain (Paced Sample.pacedCfg) := by
  refine ⟨by decide +kernel, ?_⟩
  exact paced_of_run .default Sample.pacedCfg (by decide) 0 _

/-- The second of two NACKs in a row waits for the interval. -/
def Spaced (cfg : ReceiverConfig) : NackEvent → NackEvent → Prop
  | .nack sentAt _ _, .nack sentAt' _ _ =>
      (cfg.mNackIntervalMs.toNat : ℤ) * 1000 ≤ sentAt' - sentAt
  | _, _ => True

/-- In the last 10 ms of a frame's time every pass sends a NACK. -/
theorem not_spaced_sample :
    Sample.pacedCfg.accepted = true ∧
      ¬ ((nackLog .default Sample.pacedCfg 0).run (Receiver.fresh .default)
        [Sample.firstOfTwo, Sample.passAt 95000, Sample.passAt 95010]).2.IsChain
          (Spaced Sample.pacedCfg) := by
  have hlog : ((nackLog .default Sample.pacedCfg 0).run (Receiver.fresh .default)
      [Sample.firstOfTwo, Sample.passAt 95000, Sample.passAt 95010]).2 =
        [.opened, .nack 95000 0 0, .nack 95010 0 1] := by decide +kernel
  refine ⟨by decide, ?_⟩
  rw [hlog]
  intro h
  have hspaced : Spaced Sample.pacedCfg (.nack 95000 0 0) (.nack 95010 0 1) := by
    simp only [List.isChain_cons_cons] at h
    exact h.2.1
  exact absurd hspaced (show ¬ (20 : ℤ) * 1000 ≤ 95010 - 95000 by decide)

end Receiver

end ElasticFrame
