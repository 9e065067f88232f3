import ElasticFrame.Receiver.Representation

/-!
Packets a handler refuses with an error do not change what is delivered
later, with three exceptions:

* `handleType1` checks the total size only after it has unwrapped the
  superframe number, where the other handlers check it before;
* a packet that opens a bucket for a frame of no bytes finds no memory for
  it, and leaves its delivery order and its metadata behind;
* a bundle that is refused for one member keeps the members before it.

A run that meets none of them is compared, step by step, with the run that
is not given the refused packets: the two stay `Alike`.
-/

namespace ElasticFrame

open Lib

namespace Receiver

variable {B : BufferSize}

/-! ### Receivers that are alike stay alike -/

theorem Has.alike {r r' : Receiver B} {bs bs' : B.Index → Bucket}
    {m m' : Std.ExtTreeMap ℤ B.Index compare} {ss ss' : UInt8 → Stream}
    {t t' : FrameNoTracking} (h : r.Has bs m ss t) (h' : r'.Has bs' m' ss' t')
    (hbs : ∀ i, (bs i).core = (bs' i).core) (hm : m = m') (hss : ss = ss') (ht : t = t') :
    r.Alike r' where
  buckets i := by rw [h.mpBuckets, h'.mpBuckets, hbs]
  map := by rw [h.mBucketMap, h'.mBucketMap, hm]
  streams := by rw [h.mStreams, h'.mStreams, hss]
  frameNo := by rw [h.frameNo, h'.frameNo, ht]

theorem Alike.unwrapped_eq {r r' : Receiver B} (h : r.Alike r') (n : UInt16) :
    r.unwrapped n = r'.unwrapped n := by
  rw [unwrapped, unwrapped, h.frameNo]

theorem Alike.verdict_eq {r r' : Receiver B} (h : r.Alike r') (f : Fragment) (src : UInt8) :
    f.verdict src (r.bucketOf f.superFrameNo) (r.unwrapped f.superFrameNo) =
      f.verdict src (r'.bucketOf f.superFrameNo) (r'.unwrapped f.superFrameNo) := by
  rw [h.unwrapped_eq]
  exact h.bucket_eq (fun b => f.verdict src b (r'.unwrapped f.superFrameNo)) (fun _ => rfl) _

theorem core_update {bs bs' : B.Index → Bucket} (hbs : ∀ i, (bs i).core = (bs' i).core)
    {j : B.Index} {b b' : Bucket} (hb : b.core = b'.core) (i : B.Index) :
    (Function.update bs j b i).core = (Function.update bs' j b' i).core := by
  by_cases hi : i = j
  · subst hi
    rw [Function.update_self, Function.update_self, hb]
  · rw [Function.update_of_ne hi, Function.update_of_ne hi, hbs]

theorem Alike.openBucket {r r' : Receiver B} (h : r.Alike r') (cfg : ReceiverConfig) (now : ℤ)
    (memalign : Bool) (lOrder : ℤ) (o : Opening) (apData : List UInt8) :
    (r.openBucket cfg now memalign lOrder o apData).1.Alike
        (r'.openBucket cfg now memalign lOrder o apData).1 ∧
      (r.openBucket cfg now memalign lOrder o apData).2 =
        (r'.openBucket cfg now memalign lOrder o apData).2 := by
  have hopened : ((r.bucketOf o.mSuperFrameNo).opened cfg now lOrder o).core =
      ((r'.bucketOf o.mSuperFrameNo).opened cfg now lOrder o).core := by
    change (r.bucketOf o.mSuperFrameNo).core.opened cfg now lOrder o =
      (r'.bucketOf o.mSuperFrameNo).core.opened cfg now lOrder o
    rw [show (r.bucketOf o.mSuperFrameNo).core = (r'.bucketOf o.mSuperFrameNo).core from
      h.buckets _]
  by_cases halloc : 0 < o.lTotalSize ∧ memalign = true
  · obtain ⟨hres, hhas⟩ := openBucket_of_alloc cfg r now memalign lOrder o apData halloc
    obtain ⟨hres', hhas'⟩ := openBucket_of_alloc cfg r' now memalign lOrder o apData halloc
    refine ⟨hhas.alike hhas' (core_update h.buckets ?_) (by rw [h.map]) h.streams h.frameNo,
      hres.trans hres'.symm⟩
    exact congrArg (fun b : Bucket => { b with mpFrame := some (o.frame true apData) }) hopened
  · obtain ⟨hres, hhas⟩ := openBucket_of_not_alloc cfg r now memalign lOrder o apData halloc
    obtain ⟨hres', hhas'⟩ := openBucket_of_not_alloc cfg r' now memalign lOrder o apData halloc
    refine ⟨hhas.alike hhas' (core_update h.buckets ?_) (by rw [h.map]) h.streams h.frameNo,
      hres.trans hres'.symm⟩
    exact congrArg (fun b : Bucket => { b with mpFrame := some {}, mActive := false }) hopened

theorem Alike.cacheStream {r r' : Receiver B} (h : r.Alike r') (f : Fragment) :
    (r.cacheStream f).Alike (r'.cacheStream f) :=
  (has_cacheStream r f).alike (has_cacheStream r' f) h.buckets h.map (by rw [h.streams])
    h.frameNo

theorem Alike.act {r r' : Receiver B} (h : r.Alike r') (cfg : ReceiverConfig) (now : ℤ)
    (memalign : Bool) (src : UInt8) (f : Fragment) (v : Verdict) :
    (r.act cfg now memalign src f v).1.Alike (r'.act cfg now memalign src f v).1 ∧
      (r.act cfg now memalign src f v).2 = (r'.act cfg now memalign src f v).2 := by
  have hrecalc : ((r.updateJitter now).recalculateSuperFrameNo f.superFrameNo).Alike
      ((r'.updateJitter now).recalculateSuperFrameNo f.superFrameNo) :=
    ⟨h.buckets, h.map, h.streams,
      congrArg (fun t => t.recalculateSuperFrameNo f.superFrameNo) h.frameNo⟩
  cases v with
  | short => exact ⟨h, rfl⟩
  | reject res => exact ⟨⟨h.buckets, h.map, h.streams, h.frameNo⟩, rfl⟩
  | duplicate => exact ⟨⟨h.buckets, h.map, h.streams, h.frameNo⟩, rfl⟩
  | stale res => exact ⟨hrecalc, rfl⟩
  | «open» =>
      simp only [Receiver.act, h.unwrapped_eq, h.streams]
      exact (hrecalc.cacheStream f).openBucket cfg now memalign _ _ _
  | fill =>
      have hbucket : ((r.bucketOf f.superFrameNo).fill f).core =
          ((r'.bucketOf f.superFrameNo).fill f).core := by
        rw [Bucket.core_fill, Bucket.core_fill,
          show (r.bucketOf f.superFrameNo).core = (r'.bucketOf f.superFrameNo).core from
            h.buckets _]
      have hfilled : ((r.updateJitter now).countFragment.setBucket (B.index f.superFrameNo)
            ((r.bucketOf f.superFrameNo).fill f)).Alike
          ((r'.updateJitter now).countFragment.setBucket (B.index f.superFrameNo)
            ((r'.bucketOf f.superFrameNo).fill f)) :=
        ⟨core_update h.buckets hbucket, h.map, h.streams, h.frameNo⟩
      exact ⟨hfilled.cacheStream f, rfl⟩

theorem Alike.handle {r r' : Receiver B} (h : r.Alike r') (cfg : ReceiverConfig) (now : ℤ)
    (memalign : Bool) (src : UInt8) (f : Fragment) :
    (r.handle cfg now memalign src f).1.Alike (r'.handle cfg now memalign src f).1 ∧
      (r.handle cfg now memalign src f).2 = (r'.handle cfg now memalign src f).2 := by
  rw [handle_eq, handle_eq, h.verdict_eq f src]
  exact h.act cfg now memalign src f _

theorem Alike.handleType4 {r r' : Receiver B} (h : r.Alike r') (cfg : ReceiverConfig)
    (env : Surroundings) (apData : List UInt8) (src : UInt8) :
    (r.handleType4 cfg env apData src).1.Alike (r'.handleType4 cfg env apData src).1 ∧
      (r.handleType4 cfg env apData src).2 = (r'.handleType4 cfg env apData src).2 := by
  have hcount : r.countBundle.Alike r'.countBundle :=
    ⟨h.buckets, h.map, h.streams, h.frameNo⟩
  simp only [Receiver.handleType4]
  split_ifs
  · exact ⟨h, rfl⟩
  · exact ⟨h, rfl⟩
  · exact ⟨hcount, rfl⟩
  · exact ⟨hcount, rfl⟩
  · exact bundleLoop_simulation (R := Alike)
      (fun s t lI member hst => hst.handle cfg (env.nowUs lI) (env.memalign lI) src
        (.type1 member)) apData _ _ 0 _ hcount

theorem Alike.processTimeouts {r r' : Receiver B} (h : r.Alike r') (hr : r.Represented)
    (cfg : ReceiverConfig) (clk : PassClock) :
    (r.processTimeouts cfg clk).1.Alike (r'.processTimeouts cfg clk).1 ∧
      deliveries (r.processTimeouts cfg clk).2 = deliveries (r'.processTimeouts cfg clk).2 := by
  obtain ⟨hpass, hout⟩ := hr.passed cfg clk
  obtain ⟨hpass', hout'⟩ := (hr.alike h).passed cfg clk
  have hactive : ∀ i, (r.mpBuckets i).mActive = (r'.mpBuckets i).mActive :=
    h.bucket_eq Bucket.mActive (fun _ => rfl)
  have hdue : ∀ i, (r.mpBuckets i).due cfg clk.timeouts = (r'.mpBuckets i).due cfg clk.timeouts :=
    h.bucket_eq (fun b => b.due cfg clk.timeouts) (fun _ => rfl)
  refine ⟨⟨fun i => ?_, ?_, ?_, ?_⟩, ?_⟩
  · rw [hpass.buckets, hpass'.buckets, hactive, hdue, h.buckets]
  · refine Std.ExtTreeMap.ext_getElem? fun o => Option.ext fun i => ?_
    rw [hpass.map, hpass'.map, h.map, hdue]
  · rw [hpass.streams, hpass'.streams, h.streams]
  · rw [hpass.frameNo, hpass'.frameNo, h.frameNo]
  · rw [hout, hout', h.dueList_eq]
    exact List.map_congr_left fun i _ => by
      rw [h.bucket_eq Bucket.delivered (fun _ => rfl) i]

end Receiver

/-! ### Which refusals leave nothing behind -/

/-- A call of one of the packet handlers, or a pass. -/
inductive Handling
  | fragment (now : ℤ) (memalign : Bool) (aSourceId : UInt8) (f : Fragment)
  | bundle (env : Surroundings) (aSourceId : UInt8) (apData : List UInt8)
  | pass (clk : PassClock)

namespace Receiver

variable {B : BufferSize}

def handlers (B : BufferSize) (cfg : ReceiverConfig) : Machine (Receiver B) Handling (Output B) where
  step r
    | .fragment now memalign src f => ((r.handle cfg now memalign src f).1, [])
    | .bundle env src apData => ((r.handleType4 cfg env apData src).1, [])
    | .pass clk => r.processTimeouts cfg clk

def notRejected (cfg : ReceiverConfig) (r : Receiver B) : Handling → Bool
  | .fragment now memalign src f => decide (0 ≤ (r.handle cfg now memalign src f).2.code)
  | .bundle env src apData => decide (0 ≤ (r.handleType4 cfg env apData src).2.code)
  | .pass _ => true

/-- The packet does not end in one of the refusals that leave something
behind: it opens no frame of no bytes, and it is not a Type1 that is found
too large once its number has been unwrapped, unless the unwrapping changes
nothing. -/
def clean (r : Receiver B) (src : UInt8) (f : Fragment) : Bool :=
  match f.verdict src (r.bucketOf f.superFrameNo) (r.unwrapped f.superFrameNo) with
  | .open => decide (0 < f.totalSize)
  | .stale .tooLargeFrame =>
      decide (r.frameNo.recalculateSuperFrameNo f.superFrameNo = r.frameNo)
  | _ => true

/-- Along the members of a bundle: each of them is clean, and none is refused
with an error once `taken` tells that one before it has been accepted. -/
def cleanMembers (cfg : ReceiverConfig) (env : Surroundings) (src : UInt8) (apData : List UInt8)
    (lFrameSize : ℕ) : (count lI lOffset : ℕ) → (taken : Bool) → Receiver B → Bool
  | 0, _, _, _, _ => true
  | count + 1, lI, lOffset, taken, r =>
      if getFrameType (byteAt apData lOffset) ≠ some .type1 then !taken
      else
        let f := Fragment.type1 ((apData.drop lOffset).take lFrameSize)
        let next := cleanMembers cfg env src apData lFrameSize count (lI + 1)
          (lOffset + lFrameSize)
        r.clean src f &&
          match f.verdict src (r.bucketOf f.superFrameNo) (r.unwrapped f.superFrameNo) with
          | .open | .fill => next true (r.handle cfg (env.nowUs lI) (env.memalign lI) src f).1
          | .duplicate => next taken (r.handle cfg (env.nowUs lI) (env.memalign lI) src f).1
          | .stale .fragmentTooOld => true
          | _ => !taken

/-- The condition on one step, in the state before it. -/
def leavesNothing (cfg : ReceiverConfig) (r : Receiver B) : Handling → Bool
  | .fragment _ _ src f => r.clean src f
  | .bundle env src apData =>
      let count := (FrameType4.read apData).mFrameCount.toNat
      let lPayloadSize := apData.length - FrameType4.sizeof
      -- a bundle refused as a whole never gets to its members
      decide (apData.length < FrameType4.sizeof ∨ lPayloadSize % count ≠ 0 ∨
          lPayloadSize / count < FrameType1.sizeof) ||
        cleanMembers cfg env src apData (lPayloadSize / count) count 0 FrameType4.sizeof false
          r.countBundle
  | .pass _ => true

end Receiver

def Handling.Allocates : Handling → Prop
  | .fragment _ memalign _ _ => memalign = true
  | .bundle env _ _ => ∀ k, env.memalign k = true
  | .pass _ => True

namespace Receiver

variable {B : BufferSize}

/-- The result of handling a clean fragment follows from the decision. -/
theorem result_of_verdict (cfg : ReceiverConfig) (r : Receiver B) (now : ℤ) (src : UInt8)
    {f : Fragment} (hclean : r.clean src f = true) :
    (r.handle cfg now true src f).2 =
      match f.verdict src (r.bucketOf f.superFrameNo) (r.unwrapped f.superFrameNo) with
      | .short => .frameSizeMismatch
      | .reject res => res
      | .duplicate => .duplicateFragment
      | .stale res => res
      | .open | .fill => .ok := by
  rw [handle_eq]
  unfold clean at hclean
  cases hv : f.verdict src (r.bucketOf f.superFrameNo) (r.unwrapped f.superFrameNo) with
  | short => rfl
  | reject res => rfl
  | duplicate => rfl
  | stale res => rfl
  | «open» =>
      rw [hv] at hclean
      exact (openBucket_of_alloc cfg _ now true _ (f.opening src (r.mStreams f.streamId))
        f.packet ⟨of_decide_eq_true hclean, rfl⟩).1
  | fill => rfl

/-- A clean fragment that is neither accepted nor too old leaves the receiver
alike. -/
theorem alike_of_refused (cfg : ReceiverConfig) (r : Receiver B) (now : ℤ) (memalign : Bool)
    (src : UInt8) {f : Fragment} (hclean : r.clean src f = true)
    (hrefused : match f.verdict src (r.bucketOf f.superFrameNo) (r.unwrapped f.superFrameNo) with
      | .open | .fill | .stale .fragmentTooOld => False
      | _ => True) : r.Alike (r.handle cfg now memalign src f).1 := by
  rw [handle_eq]
  unfold clean at hclean
  cases hv : f.verdict src (r.bucketOf f.superFrameNo) (r.unwrapped f.superFrameNo) with
  | short => exact .refl r
  | reject res => exact ⟨fun _ => rfl, rfl, rfl, rfl⟩
  | duplicate => exact ⟨fun _ => rfl, rfl, rfl, rfl⟩
  | stale res =>
      rw [hv] at hclean hrefused
      obtain ⟨-, -, ⟨-, rfl⟩ | ⟨-, -, rfl⟩⟩ := Fragment.verdict_stale hv
      · exact absurd hrefused id
      · exact ⟨fun _ => rfl, rfl, rfl, (of_decide_eq_true hclean).symm⟩
  | «open» => rw [hv] at hrefused; exact absurd hrefused id
  | fill => rw [hv] at hrefused; exact absurd hrefused id

/-- A fragment whose handler returns an error leaves the receiver alike. -/
theorem fragment_leavesNothing (cfg : ReceiverConfig) (r : Receiver B) (now : ℤ) (src : UInt8)
    {f : Fragment} (hclean : r.clean src f = true)
    (hcode : (r.handle cfg now true src f).2.code < 0) :
    r.Alike (r.handle cfg now true src f).1 := by
  refine r.alike_of_refused cfg now true src hclean ?_
  rw [r.result_of_verdict cfg now src hclean] at hcode
  cases hv : f.verdict src (r.bucketOf f.superFrameNo) (r.unwrapped f.superFrameNo) with
  | short => trivial
  | reject res => trivial
  | duplicate => trivial
  | stale res =>
      rw [hv] at hcode
      obtain ⟨-, -, ⟨-, rfl⟩ | ⟨-, -, rfl⟩⟩ := Fragment.verdict_stale hv
      · exact absurd hcode (by decide)
      · trivial
  | «open» => rw [hv] at hcode; exact absurd hcode (by decide)
  | fill => rw [hv] at hcode; exact absurd hcode (by decide)

/-- The member loop: if it ends in an error, nothing has been taken before
and nothing has changed. -/
theorem members_leaveNothing (cfg : ReceiverConfig) (env : Surroundings) (src : UInt8)
    (apData : List UInt8) (lFrameSize count lI lOffset : ℕ) (taken : Bool) (r : Receiver B)
    (halloc : ∀ k, env.memalign k = true)
    (hsize : lOffset + lFrameSize * count = apData.length)
    (hclean : cleanMembers cfg env src apData lFrameSize count lI lOffset taken r = true)
    (hcode : (bundleLoop
      (fun r lI member => r.handle cfg (env.nowUs lI) (env.memalign lI) src (.type1 member))
      apData lFrameSize count lI lOffset r).2.code < 0) :
    taken = false ∧ r.Alike (bundleLoop
      (fun r lI member => r.handle cfg (env.nowUs lI) (env.memalign lI) src (.type1 member))
      apData lFrameSize count lI lOffset r).1 := by
  obtain ⟨nowUs, memalign⟩ := env
  obtain rfl : memalign = fun _ => true := funext halloc
  induction count generalizing lI lOffset taken r with
  | zero =>
      simp only [bundleLoop, show lOffset = apData.length by simpa using hsize, if_true] at hcode
      exact absurd hcode (by decide)
  | succ count ih =>
      rw [Nat.mul_succ] at hsize
      rw [cleanMembers] at hclean
      rw [bundleLoop] at hcode ⊢
      by_cases htype : getFrameType (byteAt apData lOffset) ≠ some .type1
      · rw [if_pos htype] at hclean ⊢
        exact ⟨by simpa using hclean, .refl r⟩
      rw [if_neg htype] at hclean hcode ⊢
      simp only at hclean hcode ⊢
      generalize Fragment.type1 ((apData.drop lOffset).take lFrameSize) = f at hclean hcode ⊢
      obtain ⟨hmember, hrest⟩ := Bool.and_eq_true_iff.mp hclean
      have hres := r.result_of_verdict cfg (nowUs lI) src hmember
      have hnext := fun taken' r' =>
        ih (lI + 1) (lOffset + lFrameSize) taken' r' (by omega)
      cases hv : f.verdict src (r.bucketOf f.superFrameNo) (r.unwrapped f.superFrameNo) with
      | short =>
          simp only [hv] at hres hrest
          rw [if_pos (by rw [hres]; decide)]
          exact ⟨by simpa using hrest,
            r.alike_of_refused cfg _ true src hmember (by rw [hv]; trivial)⟩
      | reject res =>
          simp only [hv] at hres hrest
          have hneg := Fragment.verdict_reject hv
          have hstop : res ≠ .ok ∧ res ≠ .duplicateFragment := by
            constructor <;> rintro rfl <;> exact absurd hneg (by decide)
          rw [if_pos (by rw [hres]; exact hstop)]
          exact ⟨by simpa using hrest,
            r.alike_of_refused cfg _ true src hmember (by rw [hv]; trivial)⟩
      | duplicate =>
          simp only [hv] at hres hrest
          rw [if_neg (by rw [hres]; decide)] at hcode ⊢
          obtain ⟨htaken, halike⟩ := hnext taken _ hrest hcode
          exact ⟨htaken, (r.alike_of_refused cfg _ true src hmember
            (by rw [hv]; trivial)).trans halike⟩
      | stale res =>
          obtain ⟨-, -, ⟨-, rfl⟩ | ⟨-, -, rfl⟩⟩ := Fragment.verdict_stale hv
          · simp only [hv] at hres
            rw [if_pos (by rw [hres]; decide), hres] at hcode
            exact absurd hcode (by decide)
          · simp only [hv] at hres hrest
            rw [if_pos (by rw [hres]; decide)]
            exact ⟨by simpa using hrest,
              r.alike_of_refused cfg _ true src hmember (by rw [hv]; trivial)⟩
      | «open» =>
          simp only [hv] at hres hrest
          rw [if_neg (by rw [hres]; decide)] at hcode
          exact absurd (hnext true _ hrest hcode).1 (by decide)
      | fill =>
          simp only [hv] at hres hrest
          rw [if_neg (by rw [hres]; decide)] at hcode
          exact absurd (hnext true _ hrest hcode).1 (by decide)

/-- A bundle whose handler returns an error leaves the receiver alike. -/
theorem bundle_leavesNothing (cfg : ReceiverConfig) (r : Receiver B) (env : Surroundings)
    (src : UInt8) (apData : List UInt8) (halloc : ∀ k, env.memalign k = true)
    (hclean : r.leavesNothing cfg (.bundle env src apData) = true)
    (hcode : (r.handleType4 cfg env apData src).2.code < 0) :
    r.Alike (r.handleType4 cfg env apData src).1 := by
  have hcount : r.Alike r.countBundle := ⟨fun _ => rfl, rfl, rfl, rfl⟩
  simp only [leavesNothing] at hclean
  simp only [handleType4] at hcode ⊢
  split_ifs at hcode ⊢ with hlen hzero hmod hsize
  · exact .refl r
  · exact .refl r
  · exact hcount
  · exact hcount
  · have hexact := Nat.div_add_mod (apData.length - FrameType4.sizeof)
      (FrameType4.read apData).mFrameCount.toNat
    rw [not_not.mp hmod, Nat.mul_comm] at hexact
    have hmembers := (Bool.or_eq_true_iff.mp hclean).resolve_left
      (by simp [hlen, not_not.mp hmod, hsize])
    exact hcount.trans (members_leaveNothing cfg env src apData _ _ 0 _ false r.countBundle
      halloc (by omega) hmembers hcode).2

/-- In a run whose steps leave nothing behind when they end in an error,
taking out the packets that did leaves every delivery as it was. -/
theorem deliveries_of_kept (B : BufferSize) (cfg : ReceiverConfig) (cs : List Handling)
    (halloc : ∀ c ∈ cs, c.Allocates)
    (hclean : (handlers B cfg).Along (fun r c => r.leavesNothing cfg c = true)
      (Receiver.fresh B) cs) :
    deliveries ((handlers B cfg).run (Receiver.fresh B) cs).2 =
      deliveries ((handlers B cfg).run (Receiver.fresh B)
        ((handlers B cfg).kept (notRejected cfg) (Receiver.fresh B) cs)).2 := by
  have hboth : (handlers B cfg).Along
      (fun r c => r.leavesNothing cfg c = true ∧ c.Allocates) (Receiver.fresh B) cs := by
    generalize Receiver.fresh B = r at hclean
    induction cs generalizing r with
    | nil => trivial
    | cons c cs ih =>
        exact ⟨⟨hclean.1, halloc c (by simp)⟩,
          ih (fun c hc => halloc c (by simp [hc])) _ hclean.2⟩
  refine ((handlers B cfg).run_kept (handlers B cfg) (notRejected cfg)
    (R := fun r r' => r.Represented ∧ r.Alike r')
    (p := Output.delivery?) (q := Output.delivery?)
    (fun r r' c hR hC _ => ?_) (fun r r' c hR hC hdrop => ?_)
    ⟨represented_fresh, .refl _⟩ hboth).2
  · obtain ⟨hrep, halike⟩ := hR
    cases c with
    | fragment now memalign src f =>
        exact ⟨⟨represented_handle hrep cfg now memalign src f,
          (halike.handle cfg now memalign src f).1⟩, rfl⟩
    | bundle env src apData =>
        exact ⟨⟨represented_handleType4 hrep cfg env apData src,
          (halike.handleType4 cfg env apData src).1⟩, rfl⟩
    | pass clk =>
        obtain ⟨halike', hout⟩ := halike.processTimeouts hrep cfg clk
        exact ⟨⟨hrep.passed_represented (hrep.passed cfg clk).1, halike'⟩, hout⟩
  · obtain ⟨hrep, halike⟩ := hR
    cases c with
    | fragment now memalign src f =>
        obtain rfl : memalign = true := hC.2
        have hneg : (r.handle cfg now true src f).2.code < 0 := by
          simpa [notRejected] using hdrop
        exact ⟨⟨represented_handle hrep cfg now true src f,
          (r.fragment_leavesNothing cfg now src hC.1 hneg).symm.trans halike⟩, rfl⟩
    | bundle env src apData =>
        have hneg : (r.handleType4 cfg env apData src).2.code < 0 := by
          simpa [notRejected] using hdrop
        exact ⟨⟨represented_handleType4 hrep cfg env apData src,
          (r.bundle_leavesNothing cfg env src apData hC.2 hC.1 hneg).symm.trans halike⟩, rfl⟩
    | pass clk => simp [notRejected] at hdrop

def singlePacket (payload : List UInt8) : Fragment := .type2 (Sample.type2 0 0 0 payload)

def packetRun (fs : List Fragment) : List Handling :=
  fs.map (fun f => .fragment 0 true 0 f) ++ [.pass Sample.clk]

/-- A packet too short for its header is refused, and the run meets the
conditions. -/
theorem deliveries_of_kept_short :
    let cs := packetRun [.type1 [1, 0], singlePacket [7]]
    (∀ c ∈ cs, c.Allocates) ∧
      (handlers .default {}).Along (fun r c => r.leavesNothing {} c = true)
        (Receiver.fresh .default) cs ∧
      deliveries ((handlers .default {}).run (Receiver.fresh .default) cs).2 =
        deliveries ((handlers .default {}).run (Receiver.fresh .default)
          ((handlers .default {}).kept (notRejected {}) (Receiver.fresh .default) cs)).2 := by
  have halloc : ∀ c ∈ packetRun [.type1 [1, 0], singlePacket [7]], c.Allocates := by
    simp [packetRun, Handling.Allocates]
  have hclean : (handlers .default {}).Along (fun r c => r.leavesNothing {} c = true)
      (Receiver.fresh .default) (packetRun [.type1 [1, 0], singlePacket [7]]) :=
    ⟨rfl, rfl, rfl, trivial⟩
  exact ⟨halloc, hclean, deliveries_of_kept .default {} _ halloc hclean⟩

/-- A superframe of no bytes is refused for want of memory, and its number is
then taken for one that has been delivered: the frame that follows under the
same number is lost, where it is delivered without the refused packet. -/
theorem deliveries_ne_of_empty :
    let cs := packetRun [singlePacket [], singlePacket [7]]
    (∀ c ∈ cs, c.Allocates) ∧
      deliveries ((handlers .default {}).run (Receiver.fresh .default) cs).2 ≠
        deliveries ((handlers .default {}).run (Receiver.fresh .default)
          ((handlers .default {}).kept (notRejected {}) (Receiver.fresh .default) cs)).2 := by
  refine ⟨by simp [packetRun, Handling.Allocates], fun heq => ?_⟩
  have hfull : (deliveries ((handlers .default {}).run (Receiver.fresh .default)
      (packetRun [singlePacket [], singlePacket [7]])).2).length = 0 := rfl
  have hkept : (deliveries ((handlers .default {}).run (Receiver.fresh .default)
      ((handlers .default {}).kept (notRejected {}) (Receiver.fresh .default)
        (packetRun [singlePacket [], singlePacket [7]]))).2).length = 1 := rfl
  rw [heq, hkept] at hfull
  exact absurd hfull (by decide)

/-! ### Frames in progress -/

theorem Has.eq_of_unchanged {r r' : Receiver B}
    (h : r'.Has r.mpBuckets r.mBucketMap r.mStreams r.frameNo) :
    r' = { r with jitter := r'.jitter, mStatistics := r'.mStatistics } := by
  obtain ⟨hbuckets, hmap, hstreams, hno⟩ := h
  cases r'
  subst hbuckets hmap hstreams hno
  rfl

/-- A fragment for a frame in progress that is not accepted leaves no trace
but in the jitter and the statistics. -/
theorem unchanged_of_active (cfg : ReceiverConfig) (r : Receiver B) (now : ℤ) (memalign : Bool)
    (src : UInt8) (f : Fragment) (hactive : (r.bucketOf f.superFrameNo).mActive = true)
    (hres : (r.handle cfg now memalign src f).2 ≠ .ok) :
    (r.handle cfg now memalign src f).1 =
      { r with
        jitter := (r.handle cfg now memalign src f).1.jitter
        mStatistics := (r.handle cfg now memalign src f).1.mStatistics } := by
  have hstep := r.handled cfg now memalign src f
  generalize (r.handle cfg now memalign src f).1 = r' at hstep ⊢
  generalize (r.handle cfg now memalign src f).2 = res at hstep hres
  cases hstep with
  | refused has => exact has.eq_of_unchanged
  | stale _ _ hinactive => rw [hactive] at hinactive; cases hinactive
  | failed opens =>
      have hinactive := opens.inactive
      rw [hactive] at hinactive
      cases hinactive
  | opened => exact absurd rfl hres
  | filled => exact absurd rfl hres

/-- The first packet of a superframe of two, and then the same packet again. -/
theorem unchanged_of_active_duplicate :
    let f : Fragment := .type2 (Sample.type2 0 1 4 [7])
    let r := ((Receiver.fresh .default).handle {} 0 true 0 f).1
    (r.handle {} 0 true 0 f).2 = .duplicateFragment ∧
      (r.handle {} 0 true 0 f).1 =
        { r with
          jitter := (r.handle {} 0 true 0 f).1.jitter
          mStatistics := (r.handle {} 0 true 0 f).1.mStatistics } := by
  intro f r
  have hres : (r.handle {} 0 true 0 f).2 = .duplicateFragment := by decide +kernel
  refine ⟨hres, unchanged_of_active {} r 0 true 0 f (by decide +kernel) ?_⟩
  rw [hres]
  exact fun h => by cases h

end Receiver

end ElasticFrame
