import ElasticFrame.Repair.Timing

/-!
The timing configuration in exact arithmetic. The constructor compares the
product of NACK interval and retries with the frame timeout, and the openers
add the frame timeout in microseconds to the clock reading. Both products have
32 bits.
-/

namespace ElasticFrame

open Lib

/-- The bucket that was opened at `now` has its whole time, and the HOL
deadline, if there is one, comes before the end of it. -/
structure Bucket.Timed (cfg : ReceiverConfig) (now : ℤ) (b : Bucket) : Prop where
  mTimeoutUs : b.mTimeoutUs = now + 1000 * cfg.mTimeoutMs.toNat
  hol : 0 < cfg.mHolTimeoutMs →
    b.mFirstArrivalUs + 1000 * cfg.mHolTimeoutMs.toNat < b.mTimeoutUs

/-- What the checks of the constructor and the openers are for. A bucket that
is open in some state of a run was opened at its `mFirstArrivalUs`. -/
structure ReceiverConfig.TimesExactly (cfg : ReceiverConfig) (B : BufferSize) : Prop where
  hol : cfg.mHolTimeoutMs = 0 ∨ cfg.mHolTimeoutMs.toNat < cfg.mTimeoutMs.toNat
  budget : 0 < cfg.mNackIntervalMs → 0 < cfg.mMaxNackRetries →
    cfg.mNackIntervalMs.toNat * cfg.mMaxNackRetries.toNat < cfg.mTimeoutMs.toNat
  opened : ∀ (r : Receiver B) (now : ℤ) (memalign : Bool) (src : UInt8) (f : Fragment)
    (i : B.Index), (r.mpBuckets i).mActive = false →
      ((r.handle cfg now memalign src f).1.mpBuckets i).mActive = true →
        ((r.handle cfg now memalign src f).1.mpBuckets i).Timed cfg now
  reached : ∀ (cs : List Call) (i : B.Index),
    let b := ((Receiver.machine B cfg).run (Receiver.fresh B) cs).1.mpBuckets i
    b.mActive = true → b.Timed cfg b.mFirstArrivalUs

/-! ### Opening times -/

/-- The timeout that the openers give a bucket. -/
def Bucket.Dated (cfg : ReceiverConfig) (b : Bucket) : Prop :=
  b.mTimeoutUs = b.mFirstArrivalUs + (cfg.mTimeoutMs * 1000).toNat

namespace Receiver

variable {B : BufferSize}

/-- A handler changes a bucket that is open in neither of the two fields, and
gives them to one that it opens. -/
theorem handle_times (cfg : ReceiverConfig) (r : Receiver B) (now : ℤ) (memalign : Bool)
    (src : UInt8) (f : Fragment) (i : B.Index)
    (hact : ((r.handle cfg now memalign src f).1.mpBuckets i).mActive = true) :
    ((r.mpBuckets i).mActive = true ∧
        ((r.handle cfg now memalign src f).1.mpBuckets i).mTimeoutUs = (r.mpBuckets i).mTimeoutUs ∧
        ((r.handle cfg now memalign src f).1.mpBuckets i).mFirstArrivalUs =
          (r.mpBuckets i).mFirstArrivalUs) ∨
      ((r.mpBuckets i).mActive = false ∧
        ((r.handle cfg now memalign src f).1.mpBuckets i).mFirstArrivalUs = now ∧
        ((r.handle cfg now memalign src f).1.mpBuckets i).Dated cfg) := by
  rw [handle_mpBuckets] at hact ⊢
  by_cases hi : i = B.index f.superFrameNo
  · subst hi
    rw [Function.update_self] at hact ⊢
    cases hv : f.verdict src (r.bucketOf f.superFrameNo) (r.unwrapped f.superFrameNo) with
    | short | reject res | duplicate | stale res =>
        rw [hv] at hact
        exact .inl ⟨hact, rfl, rfl⟩
    | «open» =>
        rw [hv, Bucket.after] at hact
        rw [Bucket.after]
        split_ifs at hact ⊢ with halloc
        · exact .inr ⟨(Fragment.verdict_open hv).2.2.1, rfl, rfl⟩
        · cases hact
    | fill =>
        refine .inl ⟨(Fragment.verdict_fill hv).2.2.1, ?_⟩
        cases f <;> exact ⟨rfl, rfl⟩
  · rw [Function.update_of_ne hi] at hact ⊢
    exact .inl ⟨hact, rfl, rfl⟩

def AllDated (cfg : ReceiverConfig) (r : Receiver B) : Prop :=
  ∀ i, (r.mpBuckets i).mActive = true → (r.mpBuckets i).Dated cfg

theorem AllDated.handle {cfg : ReceiverConfig} {r : Receiver B} (h : r.AllDated cfg) (now : ℤ)
    (memalign : Bool) (src : UInt8) (f : Fragment) :
    (r.handle cfg now memalign src f).1.AllDated cfg := by
  intro i hact
  rcases r.handle_times cfg now memalign src f i hact with ⟨hopen, htimeout, hfirst⟩ | hopened
  · rw [Bucket.Dated, htimeout, hfirst]
    exact h i hopen
  · exact hopened.2.2

theorem AllDated.pass {cfg : ReceiverConfig} {r : Receiver B} (h : r.AllDated cfg)
    (clk : PassClock) : (r.processTimeouts cfg clk).1.AllDated cfg := by
  intro i hact
  have halike := r.processNacks_alike cfg clk
  rcases deliverFrames_bucket ((r.processNacks cfg clk).1.selected cfg clk.timeouts)
    (r.processNacks cfg clk).1 i with hsame | hclosed
  · have hpassed : (r.processTimeouts cfg clk).1.mpBuckets i =
        (r.processNacks cfg clk).1.mpBuckets i := hsame
    rw [hpassed] at hact ⊢
    have hdated := h i ((halike.bucket_eq Bucket.mActive (fun _ => rfl) i).trans hact)
    rw [Bucket.Dated, halike.bucket_eq Bucket.mTimeoutUs (fun _ => rfl),
      halike.bucket_eq Bucket.mFirstArrivalUs (fun _ => rfl)] at hdated
    exact hdated
  · exact absurd (hclosed.symm.trans hact) (by decide)

theorem allDated_run (B : BufferSize) (cfg : ReceiverConfig) (cs : List Call) :
    ((Receiver.machine B cfg).run (Receiver.fresh B) cs).1.AllDated cfg := by
  refine (machine B cfg).run_invariant (I := AllDated cfg) (C := fun _ _ => True)
    (fun r c h _ => ?_) (fun i hact => by cases hact)
    ((machine B cfg).along_of_forall (fun _ _ _ => trivial) _)
  cases c with
  | packet env aData src =>
      exact dispatch_invariant (fun _ now memalign f hr => hr.handle now memalign src f)
        (fun _ hr => hr) env aData h
  | pass clk => exact h.pass clk

end Receiver

/-! ### The products -/

namespace ReceiverConfig

variable {cfg : ReceiverConfig} {B : BufferSize}

def ProductsFit (cfg : ReceiverConfig) : Prop :=
  1000 * cfg.mTimeoutMs.toNat < 2 ^ 32 ∧
    cfg.mNackIntervalMs.toNat * cfg.mMaxNackRetries.toNat < 2 ^ 32

instance (cfg : ReceiverConfig) : Decidable cfg.ProductsFit := inferInstanceAs (Decidable (_ ∧ _))

theorem toNat_timeout (h : 1000 * cfg.mTimeoutMs.toNat < 2 ^ 32) :
    (cfg.mTimeoutMs * 1000).toNat = 1000 * cfg.mTimeoutMs.toNat := by
  rw [UInt32.toNat_mul, Nat.mul_comm]
  exact Nat.mod_eq_of_lt h

theorem accepted_iff : cfg.accepted = true ↔
    (0 < cfg.mHolTimeoutMs → cfg.mHolTimeoutMs < cfg.mTimeoutMs) ∧
      (0 < cfg.mMaxNackRetries → 0 < cfg.mNackIntervalMs →
        cfg.mNackIntervalMs * cfg.mMaxNackRetries.toUInt32 < cfg.mTimeoutMs) := by
  simp only [accepted, gt_iff_lt, ge_iff_le, Bool.and_eq_true, Bool.not_eq_true',
    Bool.and_eq_false_iff, decide_eq_false_iff_not, UInt32.not_le]
  tauto

/-- The first packet of a superframe shows what timeout a bucket is given. -/
theorem TimesExactly.timeout_lt (h : cfg.TimesExactly B) :
    1000 * cfg.mTimeoutMs.toNat < 2 ^ 32 := by
  have hopened := Receiver.waiting_opened B cfg
  have htimed := (h.reached [Sample.firstOfTwo] (B.index 0) hopened.active).mTimeoutUs
  have hdated := Receiver.allDated_run B cfg [Sample.firstOfTwo] (B.index 0) hopened.active
  have hlt := (cfg.mTimeoutMs * 1000).toNat_lt
  rw [Bucket.Dated, htimed] at hdated
  omega

theorem TimesExactly.budget_lt (h : cfg.TimesExactly B) :
    cfg.mNackIntervalMs.toNat * cfg.mMaxNackRetries.toNat < 2 ^ 32 := by
  have hlt := cfg.mTimeoutMs.toNat_lt
  by_contra hwraps
  have hpos : 0 < cfg.mNackIntervalMs.toNat * cfg.mMaxNackRetries.toNat := by omega
  have hbudget := h.budget (UInt32.lt_iff_toNat_lt.mpr (Nat.pos_of_mul_pos_right hpos))
    (UInt8.lt_iff_toNat_lt.mpr (Nat.pos_of_mul_pos_left hpos))
  omega

theorem ProductsFit.timed (h : cfg.ProductsFit) (haccepted : cfg.accepted = true) {b : Bucket}
    (hb : b.Dated cfg) : b.Timed cfg b.mFirstArrivalUs := by
  rw [Bucket.Dated, toNat_timeout h.1] at hb
  refine ⟨by rw [hb]; push_cast; rfl, fun hpos => ?_⟩
  have hhol := UInt32.lt_iff_toNat_lt.mp ((accepted_iff.mp haccepted).1 hpos)
  rw [hb]
  omega

/-- A configuration that the constructor accepts means what it says just when
neither of the two products leaves its 32 bits. -/
theorem timesExactly_iff (B : BufferSize) (cfg : ReceiverConfig) (haccepted : cfg.accepted = true) :
    cfg.TimesExactly B ↔ 1000 * cfg.mTimeoutMs.toNat < 2 ^ 32 ∧
      cfg.mNackIntervalMs.toNat * cfg.mMaxNackRetries.toNat < 2 ^ 32 := by
  refine ⟨fun h => ⟨h.timeout_lt, h.budget_lt⟩, fun hfit : cfg.ProductsFit => ?_⟩
  obtain ⟨hhol, hbudget⟩ := accepted_iff.mp haccepted
  constructor
  · rcases eq_or_ne cfg.mHolTimeoutMs 0 with hzero | hne
    · exact .inl hzero
    · exact .inr (UInt32.lt_iff_toNat_lt.mp (hhol (UInt32.pos_iff_ne_zero.mpr hne)))
  · intro hinterval hretries
    have hlt := UInt32.lt_iff_toNat_lt.mp (hbudget hretries hinterval)
    rw [UInt32.toNat_mul, UInt8.toNat_toUInt32, Nat.mod_eq_of_lt hfit.2] at hlt
    exact hlt
  · intro r now memalign src f i hinactive hact
    rcases r.handle_times cfg now memalign src f i hact with hopen | ⟨-, hfirst, hdated⟩
    · exact absurd (hinactive.symm.trans hopen.1) (by decide)
    · have htimed := hfit.timed haccepted hdated
      rwa [hfirst] at htimed
  · exact fun cs i hact => hfit.timed haccepted (Receiver.allDated_run B cfg cs i hact)

theorem timesExactly_retrying : Sample.retryingCfg.TimesExactly .default :=
  (timesExactly_iff .default Sample.retryingCfg (by decide)).mpr (by decide)

end ReceiverConfig

namespace Sample

/-- Two retries, 2^31 ms apart, in the 100 ms of a frame. -/
def wrappedBudgetCfg : ReceiverConfig := { mMaxNackRetries := 2, mNackIntervalMs := 0x80000000 }

/-- A frame timeout of 72 minutes. -/
def wrappedTimeoutCfg : ReceiverConfig := { mTimeoutMs := 4320000 }

end Sample

theorem ReceiverConfig.not_timesExactly_wrapped :
    (Sample.wrappedBudgetCfg.accepted = true ∧ ¬ Sample.wrappedBudgetCfg.TimesExactly .default) ∧
      Sample.wrappedTimeoutCfg.accepted = true ∧
        ¬ Sample.wrappedTimeoutCfg.TimesExactly .default := by
  refine ⟨⟨by decide, fun h => ?_⟩, by decide, fun h => ?_⟩
  · exact absurd h.budget_lt (by decide)
  · exact absurd h.timeout_lt (by decide)

end ElasticFrame
