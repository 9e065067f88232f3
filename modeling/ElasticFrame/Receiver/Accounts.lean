import ElasticFrame.Receiver.History

/-!
The books of a receiver. A fragment whose handler returns `ok` is in one active
bucket until the frame of that bucket is delivered, and in no other frame; and
the statistics count just this: the fragments taken, the duplicates, the bundles,
the NACKs and the frames.
-/

namespace ElasticFrame

open Lib

/-! ### The fragments -/

namespace Receiver

variable {B : BufferSize}

/-- The fragment that is handled in a step, and what its handler returns. -/
def answers (cfg : ReceiverConfig) (r : Receiver B) : Act → List (Fragment × Result)
  | .handle now memalign src f => [(f, (r.handle cfg now memalign src f).2)]
  | .bundle | .pass _ => []

/-- The fragments whose handlers return `res`. -/
def answered (res : Result) (answers : List (Fragment × Result)) : List Fragment :=
  (answers.filter fun a => a.2 = res).map Prod.fst

theorem answered_append (res : Result) (as bs : List (Fragment × Result)) :
    answered res (as ++ bs) = answered res as ++ answered res bs := by
  rw [answered, List.filter_append, List.map_append]
  rfl

end Receiver

namespace Traced

variable {B : BufferSize}

def share (t : Traced B) (i : B.Index) : Multiset Fragment :=
  if (t.receiver.mpBuckets i).mActive = true then (t.accepted i : Multiset Fragment) else 0

/-- The fragments that wait in the active buckets. -/
def waiting (t : Traced B) : Multiset Fragment := ∑ i, t.share i

/-- The fragments that have gone into the frames. -/
def shipped (os : List (Delivery B × List Fragment)) : Multiset Fragment :=
  (os.map fun o => (o.2 : Multiset Fragment)).sum

theorem waiting_of_share {t t' : Traced B} {i : B.Index} {new : Multiset Fragment}
    (hi : t'.share i = t.share i + new) (hne : ∀ j, j ≠ i → t'.share j = t.share j) :
    t'.waiting = t.waiting + new := by
  rw [waiting, waiting, ← Finset.add_sum_erase _ t'.share (Finset.mem_univ i),
    ← Finset.add_sum_erase _ t.share (Finset.mem_univ i), hi,
    Finset.sum_congr rfl fun j hj => hne j (Finset.ne_of_mem_erase hj)]
  exact add_right_comm _ _ _

theorem waiting_fresh : (fresh B).waiting = 0 :=
  Finset.sum_eq_zero fun _ _ => if_neg Bool.false_ne_true

theorem waiting_handle (t : Traced B) (cfg : ReceiverConfig) (now : ℤ) (memalign : Bool)
    (src : UInt8) (f : Fragment) :
    (t.handle cfg now memalign src f).waiting = t.waiting +
      (if (t.receiver.handle cfg now memalign src f).2 = .ok then {f} else 0) := by
  rcases hr : t.receiver.handle cfg now memalign src f with ⟨r', res⟩
  have hstep := t.receiver.handled cfg now memalign src f
  rw [hr] at hstep
  apply waiting_of_share (i := B.index f.superFrameNo)
  · simp only [share, Traced.handle, hr]
    cases hstep with
    | refused has hcode =>
        have hne : res ≠ .ok := by
          rcases hcode with ⟨rfl, -⟩ | hcode
          · exact Result.noConfusion
          · rintro rfl
            exact absurd hcode (by decide : ¬ Result.ok.code < 0)
        rw [if_neg hne, if_neg hne, has.mpBuckets, add_zero]
    | stale has _ _ why =>
        have hne : res ≠ .ok := by
          rcases why with ⟨-, rfl⟩ | ⟨-, -, rfl⟩ <;> exact Result.noConfusion
        rw [if_neg hne, if_neg hne, has.mpBuckets, add_zero]
    | failed opens null has =>
        have hinactive : (t.receiver.mpBuckets (B.index f.superFrameNo)).mActive = false :=
          opens.inactive
        rw [has.mpBuckets, Function.update_self, hinactive]
        rfl
    | opened opens alloc has =>
        have hinactive : (t.receiver.mpBuckets (B.index f.superFrameNo)).mActive = false :=
          opens.inactive
        rw [has.mpBuckets, Function.update_self, hinactive, if_pos rfl, if_pos rfl,
          Function.update_self]
        rfl
    | filled fills has =>
        have hactive : (t.receiver.mpBuckets (B.index f.superFrameNo)).mActive = true :=
          fills.active
        have hkept : ((t.receiver.bucketOf f.superFrameNo).fill f).mActive = true := by
          rw [← hactive]
          cases f <;> rfl
        rw [has.mpBuckets, Function.update_self, hkept, hactive, if_pos rfl, if_pos rfl, if_pos rfl,
          if_pos rfl, Function.update_self, ← Multiset.coe_add]
        rfl
  · intro j hj
    have hbucket : (t.receiver.handle cfg now memalign src f).1.mpBuckets j =
        t.receiver.mpBuckets j := by
      rw [Receiver.handle_mpBuckets, Function.update_of_ne hj]
    have haccepted : (t.handle cfg now memalign src f).accepted j = t.accepted j := by
      simp only [Traced.handle]
      split_ifs
      · exact Function.update_of_ne hj _ _
      · exact Function.update_of_ne hj _ _
      · rfl
    rw [share, share, haccepted]
    simp only [Traced.handle, hbucket]

theorem waiting_pass {t : Traced B} (h : t.Faithful) (cfg : ReceiverConfig) (clk : PassClock) :
    ((machine B cfg).step t (.pass clk)).1.waiting +
      shipped ((machine B cfg).step t (.pass clk)).2 = t.waiting := by
  obtain ⟨hpass, hds⟩ := h.represented.passed cfg clk
  have hnodup := h.represented.nodup_dueList cfg clk.timeouts
  have hshipped : shipped ((machine B cfg).step t (.pass clk)).2 =
      ∑ i, if i ∈ t.receiver.dueList cfg clk.timeouts then (t.accepted i : Multiset Fragment)
        else 0 := by
    simp only [machine, shipped, hds, List.map_map]
    rw [← Finset.sum_filter, ← List.sum_toFinset _ hnodup]
    · congr 1
      ext i
      simp
  rw [hshipped, waiting, waiting, ← Finset.sum_add_distrib]
  apply Finset.sum_congr rfl
  intro i _
  have hcore := hpass.buckets i
  by_cases hdue : (t.receiver.mpBuckets i).mActive = true ∧
      (t.receiver.mpBuckets i).due cfg clk.timeouts = true
  · rw [if_pos hdue] at hcore
    have hclosed : ((t.receiver.processTimeouts cfg clk).1.mpBuckets i).mActive = false :=
      Bucket.eq_of_core (hcore.trans (Bucket.core_closed _).symm) Bucket.mActive fun _ => rfl
    rw [if_pos (h.represented.mem_dueList.mpr hdue)]
    simp only [share, machine, hclosed, hdue.1, Bool.false_eq_true, if_false, if_true, zero_add]
  · rw [if_neg hdue] at hcore
    have hsame : ((t.receiver.processTimeouts cfg clk).1.mpBuckets i).mActive =
        (t.receiver.mpBuckets i).mActive := Bucket.eq_of_core hcore Bucket.mActive fun _ => rfl
    rw [if_neg fun hmem => hdue (h.represented.mem_dueList.mp hmem), add_zero]
    simp only [share, machine, hsame]

theorem waiting_step {t : Traced B} (h : t.Faithful) (cfg : ReceiverConfig) (a : Act) :
    ((machine B cfg).step t a).1.waiting + shipped ((machine B cfg).step t a).2 =
      t.waiting + (Receiver.answered .ok (Receiver.answers cfg t.receiver a) : List Fragment) := by
  cases a with
  | handle now memalign src f =>
      have hnone : shipped ((machine B cfg).step t (.handle now memalign src f)).2 = 0 := rfl
      rw [hnone, add_zero]
      refine (waiting_handle t cfg now memalign src f).trans (congrArg (t.waiting + ·) ?_)
      simp only [Receiver.answers, Receiver.answered, List.filter_singleton]
      split_ifs with hok
      · simp [hok]
      · simp [hok]
  | bundle => rfl
  | pass clk =>
      rw [waiting_pass h cfg clk]
      exact (add_zero _).symm

theorem shipped_append (os os' : List (Delivery B × List Fragment)) :
    shipped (os ++ os') = shipped os + shipped os' := by
  rw [shipped, List.map_append, List.sum_append]
  rfl

theorem waiting_run {t : Traced B} (h : t.Faithful) (cfg : ReceiverConfig) (as : List Act) :
    ((machine B cfg).run t as).1.waiting + shipped ((machine B cfg).run t as).2 =
      t.waiting + (Receiver.answered .ok
        ((Receiver.fine B cfg).flatten (Receiver.answers cfg) t.receiver as) : List Fragment) := by
  induction as generalizing t with
  | nil => rfl
  | cons a as ih =>
      have hreceiver : ((machine B cfg).step t a).1.receiver =
          ((Receiver.fine B cfg).step t.receiver a).1 := by
        cases a <;> rfl
      rw [Machine.run_cons, shipped_append, Machine.flatten, Receiver.answered_append,
        ← Multiset.coe_add, ← hreceiver, ← add_assoc (t.waiting), ← waiting_step h cfg a,
        add_left_comm, ih (h.step cfg a), add_left_comm, add_assoc]

end Traced

/-! ### The statistics -/

theorem Fragment.reject_ne {f : Fragment} {src : UInt8} {b : Bucket} {o : ℤ} {res : Result}
    (h : f.verdict src b o = .reject res) :
    res ≠ .ok ∧ res ≠ .duplicateFragment ∧ res ≠ .memoryAllocationError := by
  have hcode : res.code < 0 := verdict_reject h
  have hcheck : f.check ≠ some .memoryAllocationError := by
    cases f <;> simp only [check] <;> split_ifs <;> simp
  have hclash : f.clash src b ≠ some .memoryAllocationError := by
    cases f <;> simp only [clash] <;> split_ifs <;> simp
  refine ⟨?_, ?_, ?_⟩
  · rintro rfl
    exact absurd hcode (by decide)
  · rintro rfl
    exact absurd hcode (by decide)
  · rintro rfl
    rcases f.verdict_cases src b o with ⟨-, hv⟩ | ⟨res, hres, hv⟩ | ⟨-, -, -, hv⟩ | ⟨-, -, -, hv⟩
    · rw [hv] at h
      cases h
    · rw [hv, Verdict.reject.injEq] at h
      exact hcheck (h ▸ hres)
    · rcases hv with ⟨-, hv⟩ | ⟨-, -, hv⟩ | ⟨-, -, hv⟩ <;> rw [hv] at h <;> cases h
    · rcases hv with ⟨-, hv⟩ | ⟨res, hres, hv⟩ | ⟨-, hv⟩
      · rw [hv] at h
        cases h
      · rw [hv, Verdict.reject.injEq] at h
        exact hclash (h ▸ hres)
      · rw [hv] at h
        cases h

instance : Add ReceiverStatistics where
  add s t :=
    { mFragmentsReceived := s.mFragmentsReceived + t.mFragmentsReceived
      mBundlesReceived := s.mBundlesReceived + t.mBundlesReceived
      mNacksSent := s.mNacksSent + t.mNacksSent
      mCompleteFrames := s.mCompleteFrames + t.mCompleteFrames
      mBrokenFrames := s.mBrokenFrames + t.mBrokenFrames
      mDuplicateFragments := s.mDuplicateFragments + t.mDuplicateFragments }

namespace ReceiverStatistics

theorem add_def (s t : ReceiverStatistics) :
    s + t =
      { mFragmentsReceived := s.mFragmentsReceived + t.mFragmentsReceived
        mBundlesReceived := s.mBundlesReceived + t.mBundlesReceived
        mNacksSent := s.mNacksSent + t.mNacksSent
        mCompleteFrames := s.mCompleteFrames + t.mCompleteFrames
        mBrokenFrames := s.mBrokenFrames + t.mBrokenFrames
        mDuplicateFragments := s.mDuplicateFragments + t.mDuplicateFragments } := rfl

theorem add_assoc (s t u : ReceiverStatistics) : s + t + u = s + (t + u) := by
  simp only [add_def, Nat.add_assoc]

theorem zero_add (s : ReceiverStatistics) : ({} : ReceiverStatistics) + s = s := by
  simp only [add_def, Nat.zero_add]

end ReceiverStatistics

def Act.isBundle : Act → Bool
  | .bundle => true
  | .handle .. | .pass _ => false

namespace Receiver

variable {B : BufferSize}

def Output.nack? : Output B → Option (List UInt8)
  | .nack data => some data
  | .deliver _ => none

def nacks (os : List (Output B)) : List (List UInt8) := os.filterMap Output.nack?

theorem nacks_append (os os' : List (Output B)) : nacks (os ++ os') = nacks os ++ nacks os' :=
  List.filterMap_append

theorem nacks_nacks (lNacks : List (List UInt8)) :
    nacks (lNacks.map (Output.nack (B := B))) = lNacks := by
  rw [nacks, List.filterMap_map]
  exact List.filterMap_some

theorem nacks_delivers (ds : List (Delivery B)) : nacks (ds.map Output.deliver) = [] := by
  rw [nacks, List.filterMap_map]
  exact List.filterMap_eq_nil_iff.mpr fun _ _ => rfl

theorem nacks_processTimeouts (cfg : ReceiverConfig) (clk : PassClock) (r : Receiver B) :
    nacks (r.processTimeouts cfg clk).2 = (r.processNacks cfg clk).2 := by
  simp only [processTimeouts]
  rw [nacks_append, nacks_nacks, nacks_delivers, List.append_nil]

/-- What the statistics are to say of the answers, the steps and the outputs. -/
def tally (answers : List (Fragment × Result)) (as : List Act) (os : List (Output B)) :
    ReceiverStatistics where
  mFragmentsReceived :=
    (answered .ok answers).length + (answered .memoryAllocationError answers).length
  mBundlesReceived := as.countP Act.isBundle
  mNacksSent := (nacks os).length
  mCompleteFrames := (deliveries os).countP fun d => !d.frame.mBroken
  mBrokenFrames := (deliveries os).countP fun d => d.frame.mBroken
  mDuplicateFragments := (answered .duplicateFragment answers).length

theorem tally_append (answers answers' : List (Fragment × Result)) (as as' : List Act)
    (os os' : List (Output B)) :
    tally (answers ++ answers') (as ++ as') (os ++ os') =
      tally answers as os + tally answers' as' os' := by
  simp only [tally, ReceiverStatistics.add_def, answered_append, List.length_append,
    List.countP_append, deliveries_append, nacks_append, ReceiverStatistics.mk.injEq, and_true]
  exact Nat.add_add_add_comm _ _ _ _

theorem mStatistics_handle (cfg : ReceiverConfig) (r : Receiver B) (now : ℤ) (memalign : Bool)
    (src : UInt8) (f : Fragment) :
    (r.handle cfg now memalign src f).1.mStatistics =
      r.mStatistics + tally (B := B) (r.answers cfg (.handle now memalign src f)) [] [] := by
  have hnone : ∀ res : Result, res ≠ .ok → res ≠ .duplicateFragment →
      res ≠ .memoryAllocationError →
      r.mStatistics = r.mStatistics + tally (B := B) [(f, res)] [] [] := by
    intro res hok hdup hmem
    simp [tally, answered, hok, hdup, hmem, ReceiverStatistics.add_def, deliveries, nacks]
  rw [answers, handle_eq]
  cases hv : f.verdict src (r.bucketOf f.superFrameNo) (r.unwrapped f.superFrameNo) with
  | short => exact hnone _ Result.noConfusion Result.noConfusion Result.noConfusion
  | reject res =>
      obtain ⟨hok, hdup, hmem⟩ := Fragment.reject_ne hv
      exact hnone res hok hdup hmem
  | duplicate =>
      simp [act, countDuplicate, updateJitter, tally, answered, ReceiverStatistics.add_def,
        deliveries, nacks]
  | stale res =>
      obtain ⟨-, -, hwhy⟩ := Fragment.verdict_stale hv
      rcases hwhy with ⟨-, rfl⟩ | ⟨-, -, rfl⟩
      · exact hnone _ Result.noConfusion Result.noConfusion Result.noConfusion
      · exact hnone _ Result.noConfusion Result.noConfusion Result.noConfusion
  | «open» =>
      -- the fragment is counted before the frame is allocated
      have hcached : (((r.updateJitter now).recalculateSuperFrameNo f.superFrameNo).cacheStream
          f).mStatistics = r.mStatistics := by
        cases f <;> rfl
      simp only [act, openBucket]
      split_ifs
      · simp [countFragment, setBucket, hcached, tally, answered, ReceiverStatistics.add_def,
          deliveries, nacks]
      · simp [countFragment, setBucket, hcached, tally, answered, ReceiverStatistics.add_def,
          deliveries, nacks]
  | fill =>
      have hcached : ((((r.updateJitter now).countFragment.setBucket (B.index f.superFrameNo)
          ((r.bucketOf f.superFrameNo).fill f)).cacheStream f).mStatistics) =
          r.countFragment.mStatistics := by
        cases f <;> rfl
      simp only [act, hcached]
      simp [countFragment, tally, answered, ReceiverStatistics.add_def, deliveries, nacks]

/-! A pass. -/

theorem tally_deliver (d : Delivery B) :
    tally [] [] [.deliver d] =
      if d.frame.mBroken = true then { mBrokenFrames := 1 } else { mCompleteFrames := 1 } := by
  rcases d with ⟨i, f⟩
  simp only [tally, deliveries, nacks, answered]
  cases hbroken : f.mBroken
  · simp [Output.delivery?, Output.nack?, hbroken]
  · simp [Output.delivery?, Output.nack?, hbroken]

theorem mStatistics_processNack (cfg : ReceiverConfig) (clk : PassClock) (r : Receiver B)
    (i : B.Index) :
    (r.processNack cfg clk i).1.mStatistics =
      r.mStatistics +
        tally [] [] ((r.processNack cfg clk i).2.map Output.nack : List (Output B)) := by
  simp only [processNack]
  generalize (if (r.mpBuckets i).mLastNackUs = 0 then _ else _) = lTriggerTimeUs
  split_ifs <;> rfl

theorem mStatistics_processNackList (cfg : ReceiverConfig) (clk : PassClock) (is : List B.Index)
    (r : Receiver B) :
    (processNackList cfg clk is r).1.mStatistics =
      r.mStatistics +
        tally [] [] ((processNackList cfg clk is r).2.map Output.nack : List (Output B)) := by
  induction is generalizing r with
  | nil => rfl
  | cons i is ih =>
      rw [processNackList, ih, mStatistics_processNack, ReceiverStatistics.add_assoc,
        ← tally_append, ← List.map_append]
      rfl

theorem mStatistics_processNacks (cfg : ReceiverConfig) (clk : PassClock) (r : Receiver B) :
    (r.processNacks cfg clk).1.mStatistics =
      r.mStatistics +
        tally [] [] ((r.processNacks cfg clk).2.map Output.nack : List (Output B)) := by
  unfold processNacks
  split_ifs
  · rfl
  · exact mStatistics_processNackList cfg clk _ r

theorem mStatistics_deliverFrame (r : Receiver B) (i : B.Index) :
    (r.deliverFrame i).1.mStatistics =
      r.mStatistics + tally [] [] ((r.deliverFrame i).2.map Output.deliver) := by
  simp only [deliverFrame]
  split
  · rfl
  · rw [List.map_singleton, tally_deliver]
    split_ifs <;> rfl

theorem mStatistics_deliverFrames (is : List B.Index) (r : Receiver B) :
    (deliverFrames is r).1.mStatistics =
      r.mStatistics + tally [] [] ((deliverFrames is r).2.map Output.deliver) := by
  induction is generalizing r with
  | nil => rfl
  | cons i is ih =>
      rw [deliverFrames, ih, mStatistics_deliverFrame, ReceiverStatistics.add_assoc,
        ← tally_append, ← List.map_append]
      rfl

theorem mStatistics_step (cfg : ReceiverConfig) (r : Receiver B) (a : Act) :
    ((fine B cfg).step r a).1.mStatistics =
      r.mStatistics + tally (r.answers cfg a) [a] ((fine B cfg).step r a).2 := by
  cases a with
  | handle now memalign src f => exact mStatistics_handle cfg r now memalign src f
  | bundle => rfl
  | pass clk =>
      show (r.processTimeouts cfg clk).1.mStatistics =
        r.mStatistics + tally [] [.pass clk] (r.processTimeouts cfg clk).2
      simp only [processTimeouts]
      rw [mStatistics_deliverFrames, mStatistics_processNacks, ReceiverStatistics.add_assoc,
        ← tally_append]
      rfl

theorem mStatistics_run (cfg : ReceiverConfig) (r : Receiver B) (as : List Act) :
    ((fine B cfg).run r as).1.mStatistics =
      r.mStatistics + tally ((fine B cfg).flatten (answers cfg) r as) as
        ((fine B cfg).run r as).2 := by
  induction as generalizing r with
  | nil => rfl
  | cons a as ih =>
      rw [Machine.run_cons, Machine.flatten, ih, mStatistics_step, ReceiverStatistics.add_assoc,
        ← tally_append]
      rfl

/-! What the receiver reports. -/

def pendingCount (r : Receiver B) : ℕ := r.mBucketMap.size

/-- `getStatistics`: the counters, and `mPendingBuckets`. -/
def getStatistics (r : Receiver B) : ReceiverStatistics × UInt32 :=
  (r.mStatistics, UInt32.ofNat r.mBucketMap.size)

def active (r : Receiver B) : Finset B.Index :=
  Finset.univ.filter fun i => (r.mpBuckets i).mActive = true

theorem Represented.pendingCount_eq {r : Receiver B} (h : r.Represented) :
    r.pendingCount = r.active.card := by
  have hactive : r.pending.toFinset = r.active := by
    ext i
    rw [List.mem_toFinset, h.mem_pending, active, Finset.mem_filter]
    simp
  rw [← hactive, List.toFinset_card_of_nodup h.nodup_pending, pending, List.length_map,
    Std.ExtTreeMap.length_toList]
  rfl

theorem Represented.mPendingBuckets_eq {r : Receiver B} (h : r.Represented) :
    r.getStatistics.2.toNat = r.active.card := by
  have hbuckets : r.active.card ≤ 65536 := by
    calc r.active.card
        ≤ Fintype.card B.Index := Finset.card_le_univ _
      _ = B.mask + 1 := Fintype.card_fin _
      _ ≤ 65536 := Nat.le_of_dvd (by norm_num) B.dvd
  have hcount : r.mBucketMap.size = r.active.card := h.pendingCount_eq
  rw [getStatistics, UInt32.toNat_ofNat', hcount]
  exact Nat.mod_eq_of_lt (by omega)

/-- In every run a fragment whose handler returns `ok` is delivered in one
frame or waits in one active bucket, each bucket is made of what it has, and the
receiver reports just the counts of the run. -/
theorem accounts (B : BufferSize) (cfg : ReceiverConfig) (es : List Event) :
    let given := (fine B cfg).flatten (answers cfg) (Receiver.fresh B) (actsOf B cfg es)
    let t := Traced.ofEvents B cfg es
    let run := (system B cfg).run (Receiver.fresh B) es
    t.1.receiver = run.1 ∧ t.2.map Prod.fst = deliveries run.2 ∧
    (∀ o ∈ t.2, Traced.Delivered o) ∧
    (∀ i, (t.1.receiver.mpBuckets i).mActive = true →
      (t.1.receiver.mpBuckets i).core.Built (t.1.accepted i)) ∧
    (answered .ok given : Multiset Fragment) = Traced.shipped t.2 + t.1.waiting ∧
    t.1.receiver.getStatistics.1 = tally given (actsOf B cfg es) run.2 ∧
    t.1.receiver.getStatistics.2.toNat = t.1.receiver.active.card ∧
    t.1.receiver.pendingCount = t.1.receiver.active.card := by
  intro given t run
  obtain ⟨hreceiver, hdeliveries⟩ := Traced.ofEvents_receiver B cfg es
  have hfresh : (Traced.fresh B).Faithful := Traced.faithful_fresh
  have hfaithful : t.1.Faithful := Traced.faithful_run hfresh cfg (actsOf B cfg es)
  refine ⟨hreceiver, hdeliveries, Traced.delivered_run hfresh cfg _, hfaithful.built, ?_, ?_,
    hfaithful.represented.mPendingBuckets_eq, hfaithful.represented.pendingCount_eq⟩
  · have hbalance := Traced.waiting_run hfresh cfg (actsOf B cfg es)
    rw [Traced.waiting_fresh, zero_add, add_comm] at hbalance
    exact hbalance.symm
  · show t.1.receiver.mStatistics = tally given (actsOf B cfg es) run.2
    have hrun : run = (fine B cfg).run (Receiver.fresh B) (actsOf B cfg es) :=
      run_actsOf B cfg es
    rw [show t.1.receiver = run.1 from hreceiver, hrun, mStatistics_run]
    exact ReceiverStatistics.zero_add _

end Receiver

end ElasticFrame
