import ElasticFrame.Receiver.AtMostOnce
import ElasticFrame.Lib.Lists

/-!
Superframes that travel interleaved do not disturb each other.

A run is compared with the run that is fed the packets of one superframe
only. What the packets of the others can change is shared: the counters that
unwrap the superframe number, the stream cache, the bucket map. As long as
the numbers of the run lie within as many consecutive ones as there are
buckets, and within half the range of the wire number, no two superframes
share a bucket, and unwrapping sets all numbers off by one constant. The
orders of the two runs then differ by a constant, and whether a packet is
too old depends on one thing only, that its own bucket has been opened.
-/

namespace ElasticFrame

open Lib

/-! ### Numbers within a span -/

/-- The number is one of the `min (BUFFER_SIZE + 1) 2^15` numbers from
`base` on, modulo `2^16`. -/
def BufferSize.InSpan (B : BufferSize) (base n : UInt16) : Prop :=
  (n - base).toNat < min (B.mask + 1) (2 ^ 15)

instance (B : BufferSize) (base n : UInt16) : Decidable (B.InSpan base n) :=
  inferInstanceAs (Decidable (_ < _))

/-- A number of the span, counted on past `2^16`. -/
def spanLabel (base n : UInt16) : ℤ := base.toNat + (n - base).toNat

theorem spanLabel_modEq (base n : UInt16) : (n.toNat : ℤ) ≡ spanLabel base n [ZMOD 2 ^ 16] := by
  have hsub := (UInt16.toNat_sub_modEq n base).symm.add_left (base.toNat : ℤ)
  rwa [show (base.toNat : ℤ) + (n.toNat - base.toNat) = n.toNat by ring] at hsub

namespace BufferSize

variable {B : BufferSize}

theorem InSpan.near {base m n : UInt16} (hm : B.InSpan base m) (hn : B.InSpan base n) :
    |spanLabel base n - spanLabel base m| < 2 ^ 15 := by
  have hm' := lt_of_lt_of_le hm (min_le_right _ _)
  have hn' := lt_of_lt_of_le hn (min_le_right _ _)
  rw [abs_lt, spanLabel, spanLabel]
  omega

theorem InSpan.eq_of_index {base m n : UInt16} (hm : B.InSpan base m) (hn : B.InSpan base n)
    (hindex : B.index m = B.index n) : m = n := by
  have hm' := lt_of_lt_of_le hm (min_le_left _ _)
  have hn' := lt_of_lt_of_le hn (min_le_left _ _)
  have hlabel : spanLabel base m ≡ spanLabel base n [ZMOD (B.mask + 1 : ℕ)] :=
    (Labelled.index_modEq (spanLabel_modEq base m)).symm.trans
      (hindex ▸ Labelled.index_modEq (spanLabel_modEq base n))
  have hoffset : (m - base).toNat ≡ (n - base).toNat [MOD B.mask + 1] := by
    refine Int.natCast_modEq_iff.mp ?_
    exact Int.ModEq.add_left_cancel' _ hlabel
  have hsub : m - base = n - base :=
    UInt16.toNat_inj.mp (Nat.ModEq.eq_of_lt_of_lt hoffset hm' hn')
  exact sub_left_injective hsub

end BufferSize

/-! ### What a superframe owns -/

/-- The part of a bucket that its own packets decide: all but the delivery
order, which is counted from the first number the receiver has seen, the
payload type and code, which may come from the stream cache, and the NACK
bookkeeping. -/
def Bucket.own (b : Bucket) : Bucket :=
  { b.core with mDeliveryOrder := 0, mPayloadType := 0, mPayloadCode := 0 }

def SuperFrame.own (f : SuperFrame) : SuperFrame :=
  { f with mPayloadType := 0, mPayloadCode := 0 }

namespace Bucket

@[simp] theorem own_mActive (b : Bucket) : b.own.mActive = b.mActive := rfl
@[simp] theorem own_mSavedFrameNo (b : Bucket) : b.own.mSavedFrameNo = b.mSavedFrameNo := rfl
@[simp] theorem own_delivered (b : Bucket) : b.own.delivered = b.delivered.own := rfl
@[simp] theorem own_core (b : Bucket) : b.core.own = b.own := rfl
@[simp] theorem own_closed (b : Bucket) : b.closed.own = b.own.closed := rfl

@[simp] theorem own_due (b : Bucket) (cfg : ReceiverConfig) (now : ℤ) :
    b.own.due cfg now = b.due cfg now := rfl

theorem own_fill (b : Bucket) (f : Fragment) : (b.fill f).own = (b.own.fill f).own := by
  cases f <;> rfl

theorem eq_of_own {b b' : Bucket} (h : b.own = b'.own) {α : Sort*} (g : Bucket → α)
    (hg : ∀ b : Bucket, g b.own = g b) : g b = g b' := by
  rw [← hg b, h, hg b']

/-- The decision reads nothing else, but whether the order is the recorded
one. -/
theorem verdict_of_own {b b' : Bucket} (h : b.own = b'.own) {o o' : ℤ}
    (ho : b.mActive = false → (o = b.mDeliveryOrder ↔ o' = b'.mDeliveryOrder)) (f : Fragment)
    (src : UInt8) : f.verdict src b o = f.verdict src b' o' := by
  have hact : b.mActive = b'.mActive := eq_of_own h Bucket.mActive fun _ => rfl
  have hclash : f.clash src b = f.clash src b' := eq_of_own h (f.clash src) fun _ => rfl
  cases hb : b.mActive with
  | true => simp only [Fragment.verdict, ← hact, hb, hclash, Bool.true_eq_false, if_false]
  | false => simp only [Fragment.verdict, ← hact, hb, ho hb, if_true]

/-- What the decision makes of the bucket reads nothing else either. -/
theorem after_own {b b' : Bucket} (h : b.own = b'.own) (cfg : ReceiverConfig) (now o o' : ℤ)
    (memalign : Bool) (src : UInt8) (cached cached' : Stream) (f : Fragment) (v : Verdict) :
    (b.after cfg now o memalign src cached f v).own =
      (b'.after cfg now o' memalign src cached' f v).own := by
  cases v with
  | short => exact h
  | reject res => exact h
  | duplicate => exact h
  | stale res => exact h
  | «open» =>
      simp only [after]
      split_ifs <;> rfl
  | fill =>
      simp only [after]
      rw [own_fill, h, ← own_fill]

/-- An opener records its order and its number, and nothing else does. -/
theorem after_fields (b : Bucket) (cfg : ReceiverConfig) (now o : ℤ) (memalign : Bool)
    (src : UInt8) (cached : Stream) (f : Fragment) (v : Verdict) :
    v = .open ∧ (b.after cfg now o memalign src cached f v).mDeliveryOrder = o ∧
        (b.after cfg now o memalign src cached f v).mSavedFrameNo = f.superFrameNo ∨
      v ≠ .open ∧
        (b.after cfg now o memalign src cached f v).mDeliveryOrder = b.mDeliveryOrder ∧
        (b.after cfg now o memalign src cached f v).mSavedFrameNo = b.mSavedFrameNo ∧
        (b.after cfg now o memalign src cached f v).mActive = b.mActive := by
  cases v with
  | short => exact .inr ⟨by simp, rfl, rfl, rfl⟩
  | reject res => exact .inr ⟨by simp, rfl, rfl, rfl⟩
  | duplicate => exact .inr ⟨by simp, rfl, rfl, rfl⟩
  | stale res => exact .inr ⟨by simp, rfl, rfl, rfl⟩
  | «open» =>
      refine .inl ⟨rfl, ?_⟩
      simp only [after]
      split_ifs <;> exact ⟨rfl, rfl⟩
  | fill =>
      obtain ⟨hact, hsaved, horder, -⟩ := b.fill_fields f
      exact .inr ⟨by simp, horder, hsaved, hact⟩

end Bucket

/-! ### Receivers whose numbers lie within a span -/

/-- The bucket as the constructor leaves it, as far as it matters. -/
def Bucket.Untouched (b : Bucket) : Prop := b.mActive = false ∧ b.mDeliveryOrder = int64Max

/-- The bucket at position `i` was opened by a number of the span, when
unwrapped numbers ran `c` ahead of their labels. -/
structure Bucket.OpenedAt {B : BufferSize} (base : UInt16) (c : ℤ) (i : B.Index) (b : Bucket) :
    Prop where
  inSpan : B.InSpan base b.mSavedFrameNo
  index : B.index b.mSavedFrameNo = i
  order : b.mDeliveryOrder = spanLabel base b.mSavedFrameNo + c

namespace Receiver

variable {B : BufferSize} {base : UInt16}

/-- All numbers unwrapped so far lie in the span, `last` being the last of
them, and they have all been unwrapped to their label plus `c`. -/
structure Spanned (r : Receiver B) (base : UInt16) (last : Option UInt16) (c : ℤ) : Prop where
  represented : r.Represented
  tracks : r.frameNo.Tracks c (last.map (spanLabel base))
  seen : ∀ n, last = some n → B.InSpan base n
  bounded : |c| ≤ 2 ^ 17
  buckets : ∀ i, (r.mpBuckets i).Untouched ∨
    last ≠ none ∧ (r.mpBuckets i).OpenedAt base c i

theorem spanned_fresh : (Receiver.fresh B).Spanned base none 0 where
  represented := represented_fresh
  tracks := rfl
  seen n hn := by cases hn
  bounded := by norm_num
  buckets _ := .inl ⟨rfl, rfl⟩

/-- A number of the span is unwrapped to its label plus a constant, and the
buckets that have been opened agree with that constant. -/
theorem Spanned.unwrap {r : Receiver B} {last : Option UInt16} {c : ℤ}
    (h : r.Spanned base last c) {n : UInt16} (hn : B.InSpan base n) :
    ∃ c', |c'| ≤ 2 ^ 17 ∧
      (r.frameNo.recalculateSuperFrameNo n).Tracks c' (some (spanLabel base n)) ∧
      r.unwrapped n = spanLabel base n + c' ∧
      ∀ i, (r.mpBuckets i).Untouched ∨ (r.mpBuckets i).OpenedAt base c' i := by
  obtain ⟨c', htracks, hrecalc, hsame⟩ := h.tracks.recalculate (spanLabel_modEq base n)
    (fun x hx => by
      obtain ⟨m, hm, rfl⟩ := Option.map_eq_some_iff.mp hx
      exact (h.seen m hm).near hn)
  cases last with
  | none =>
      have hfirst : r.frameNo.mFirstFrame = true := h.tracks
      have hvalue : (r.frameNo.recalculateSuperFrameNo n).mFrameNoRecalc = n.toNat := by
        rw [FrameNoTracking.recalculateSuperFrameNo, hfirst]
        rfl
      have hlabel : spanLabel base n = base.toNat + (n - base).toNat := rfl
      have hbase := base.toNat_lt
      have hn' := n.toNat_lt
      have hoffset := (n - base).toNat_lt
      refine ⟨c', abs_le.mpr ⟨by omega, by omega⟩, htracks, hrecalc, fun i => ?_⟩
      exact (h.buckets i).imp_right fun hopened => absurd rfl hopened.1
  | some m =>
      obtain rfl : c' = c := hsame _ rfl
      exact ⟨c', h.bounded, htracks, hrecalc, fun i => (h.buckets i).imp_right And.right⟩

theorem order_lt (base n : UInt16) {c : ℤ} (hc : |c| ≤ 2 ^ 17) : spanLabel base n + c < int64Max := by
  have hlabel : spanLabel base n = base.toNat + (n - base).toNat := rfl
  have hbase := base.toNat_lt
  have hoffset := (n - base).toNat_lt
  have hle := (abs_le.mp hc).2
  have hmax : int64Max = 2 ^ 63 - 1 := rfl
  omega

/-- A packet is too old just when the bucket of its number has been opened
before. -/
theorem Spanned.stale_iff {r : Receiver B} {last : Option UInt16} {c : ℤ}
    (h : r.Spanned base last c) {n : UInt16} (hn : B.InSpan base n) :
    r.unwrapped n = (r.bucketOf n).mDeliveryOrder ↔
      (r.bucketOf n).mDeliveryOrder ≠ int64Max := by
  obtain ⟨c', hbound, -, hunwrapped, hbuckets⟩ := h.unwrap hn
  have hlt := order_lt base n hbound
  rcases hbuckets (B.index n) with huntouched | hopened
  · have horder : (r.bucketOf n).mDeliveryOrder = int64Max := huntouched.2
    rw [horder, hunwrapped]
    exact ⟨fun heq => absurd heq (ne_of_lt hlt), fun hne => absurd rfl hne⟩
  · have hsaved : (r.mpBuckets (B.index n)).mSavedFrameNo = n :=
      hopened.inSpan.eq_of_index hn hopened.index
    have horder : (r.bucketOf n).mDeliveryOrder = spanLabel base n + c' := by
      rw [bucketOf, hopened.order, hsaved]
    rw [horder, hunwrapped]
    exact ⟨fun _ => ne_of_lt hlt, fun _ => rfl⟩

theorem Spanned.handle {r : Receiver B} {last : Option UInt16} {c : ℤ}
    (h : r.Spanned base last c) (cfg : ReceiverConfig) (now : ℤ) (memalign : Bool)
    (src : UInt8) (f : Fragment)
    (hn : f.headerSize ≤ f.packet.length → B.InSpan base f.superFrameNo) :
    ∃ last' c', (r.handle cfg now memalign src f).1.Spanned base last' c' := by
  have hrep := represented_handle h.represented cfg now memalign src f
  have hbuckets := r.handle_mpBuckets cfg now memalign src f
  have hno := r.handle_frameNo cfg now memalign src f
  have hfields := (r.bucketOf f.superFrameNo).after_fields cfg now (r.unwrapped f.superFrameNo)
    memalign src (r.mStreams f.streamId) f
  generalize hv : f.verdict src (r.bucketOf f.superFrameNo) (r.unwrapped f.superFrameNo) = v
    at hbuckets hno
  -- the counters, and the buckets before the step seen from there
  obtain ⟨last', c', htracks, hseen, hbound, hold, hopen⟩ : ∃ last' c',
      (r.handle cfg now memalign src f).1.frameNo.Tracks c' (last'.map (spanLabel base)) ∧
      (∀ n, last' = some n → B.InSpan base n) ∧ |c'| ≤ 2 ^ 17 ∧
      (∀ i, (r.mpBuckets i).Untouched ∨ last' ≠ none ∧ (r.mpBuckets i).OpenedAt base c' i) ∧
      (v = .open → last' ≠ none ∧ B.InSpan base f.superFrameNo ∧
        r.unwrapped f.superFrameNo = spanLabel base f.superFrameNo + c') := by
    rw [hno]
    cases hunwraps : v.unwraps with
    | false =>
        refine ⟨last, c, h.tracks, h.seen, h.bounded, h.buckets, ?_⟩
        rintro rfl
        cases hunwraps
    | true =>
        have hlen : f.headerSize ≤ f.packet.length := by
          by_contra hshort
          rw [Fragment.verdict, if_pos (not_le.mp hshort)] at hv
          rw [← hv] at hunwraps
          cases hunwraps
        obtain ⟨c', hbound, htracks, hunwrapped, hold⟩ := h.unwrap (hn hlen)
        refine ⟨some f.superFrameNo, c', htracks, ?_, hbound, fun i => ?_, fun _ => ?_⟩
        · rintro n ⟨⟩
          exact hn hlen
        · exact (hold i).imp_right fun hopened => ⟨by simp, hopened⟩
        · exact ⟨by simp, hn hlen, hunwrapped⟩
  refine ⟨last', c', hrep, htracks, hseen, hbound, fun i => ?_⟩
  rw [hbuckets]
  by_cases hi : i = B.index f.superFrameNo
  · subst hi
    rw [Function.update_self]
    rcases hfields v with ⟨rfl, horder, hsaved⟩ | ⟨-, horder, hsaved, hact⟩
    · obtain ⟨hsome, hspan, hunwrapped⟩ := hopen rfl
      exact .inr ⟨hsome, by rw [hsaved]; exact hspan, by rw [hsaved],
        by rw [horder, hsaved, hunwrapped]⟩
    · rcases hold (B.index f.superFrameNo) with huntouched | ⟨hsome, hopened⟩
      · exact .inl ⟨hact.trans huntouched.1, horder.trans huntouched.2⟩
      · exact .inr ⟨hsome, by rw [hsaved]; exact hopened.inSpan, by rw [hsaved]; exact hopened.index,
          by rw [horder, hsaved]; exact hopened.order⟩
  · rw [Function.update_of_ne hi]
    exact hold i

/-- What a pass does to a bucket, apart from its NACK bookkeeping. -/
theorem Passed.bucket_eq {cfg : ReceiverConfig} {now : ℤ} {r r' : Receiver B}
    (h : Passed cfg now r r') {α : Sort*} (g : Bucket → α) (hcore : ∀ b : Bucket, g b.core = g b)
    (i : B.Index) : g (r'.mpBuckets i) =
      if (r.mpBuckets i).mActive = true ∧ (r.mpBuckets i).due cfg now = true then
        g (r.mpBuckets i).closed
      else g (r.mpBuckets i) := by
  rw [← hcore, h.buckets i]
  split_ifs
  · rw [← Bucket.core_closed, hcore]
  · rw [hcore]

theorem Spanned.pass {r : Receiver B} {last : Option UInt16} {c : ℤ}
    (h : r.Spanned base last c) (cfg : ReceiverConfig) (clk : PassClock) :
    (r.processTimeouts cfg clk).1.Spanned base last c := by
  obtain ⟨hpass, -⟩ := h.represented.passed cfg clk
  have hsaved : ∀ i, ((r.processTimeouts cfg clk).1.mpBuckets i).mSavedFrameNo =
      (r.mpBuckets i).mSavedFrameNo := fun i =>
    (hpass.bucket_eq Bucket.mSavedFrameNo (fun _ => rfl) i).trans (ite_self _)
  have horder : ∀ i, ((r.processTimeouts cfg clk).1.mpBuckets i).mDeliveryOrder =
      (r.mpBuckets i).mDeliveryOrder := fun i =>
    (hpass.bucket_eq Bucket.mDeliveryOrder (fun _ => rfl) i).trans (ite_self _)
  refine ⟨h.represented.passed_represented hpass, by rw [hpass.frameNo]; exact h.tracks, h.seen,
    h.bounded, fun i => ?_⟩
  rcases h.buckets i with ⟨hact, huntouched⟩ | ⟨hsome, hopened⟩
  · refine .inl ⟨?_, (horder i).trans huntouched⟩
    rw [hpass.bucket_eq Bucket.mActive (fun _ => rfl) i, hact]
    exact if_neg (by simp)
  · exact .inr ⟨hsome, by rw [hsaved]; exact hopened.inSpan, by rw [hsaved]; exact hopened.index,
      by rw [horder, hsaved]; exact hopened.order⟩

end Receiver

/-! ### The two runs -/

namespace Receiver

variable {B : BufferSize} {base : UInt16}

/-- The receiver `r` fed with everything and the receiver `t` fed with the
packets of superframe `s` only. -/
structure Isolated (base s : UInt16) (r t : Receiver B) : Prop where
  full : ∃ last c, r.Spanned base last c
  alone : ∃ last c, t.Spanned base last c
  own : B.InSpan base s → (r.bucketOf s).own = (t.bucketOf s).own
  opened : B.InSpan base s →
    ((r.bucketOf s).mDeliveryOrder = int64Max ↔ (t.bucketOf s).mDeliveryOrder = int64Max)

theorem Isolated.handle {s : UInt16} {r t : Receiver B} (h : Isolated base s r t)
    (cfg : ReceiverConfig) (now : ℤ) (memalign : Bool) (src : UInt8) (f : Fragment)
    (hn : f.headerSize ≤ f.packet.length → B.InSpan base f.superFrameNo)
    (hs : f.superFrameNo = s) :
    Isolated base s (r.handle cfg now memalign src f).1 (t.handle cfg now memalign src f).1 := by
  subst hs
  obtain ⟨last, c, hfull⟩ := h.full
  obtain ⟨last', c', halone⟩ := h.alone
  have hafter : ∀ r : Receiver B, (r.handle cfg now memalign src f).1.bucketOf f.superFrameNo =
      (r.bucketOf f.superFrameNo).after cfg now (r.unwrapped f.superFrameNo) memalign src
        (r.mStreams f.streamId) f
        (f.verdict src (r.bucketOf f.superFrameNo) (r.unwrapped f.superFrameNo)) := fun r => by
    rw [bucketOf, handle_mpBuckets, Function.update_self]
  refine ⟨hfull.handle cfg now memalign src f hn, halone.handle cfg now memalign src f hn,
    fun hspan => ?_, fun hspan => ?_⟩
  all_goals
    have hverdict : f.verdict src (r.bucketOf f.superFrameNo) (r.unwrapped f.superFrameNo) =
        f.verdict src (t.bucketOf f.superFrameNo) (t.unwrapped f.superFrameNo) := by
      refine Bucket.verdict_of_own (h.own hspan) (fun _ => ?_) f src
      rw [hfull.stale_iff hspan, halone.stale_iff hspan]
      exact not_congr (h.opened hspan)
    rw [hafter, hafter, hverdict]
  · exact Bucket.after_own (h.own hspan) cfg now _ _ memalign src _ _ f _
  · -- an order that is recorded is not the one of a bucket never opened
    have hrecorded : ∀ r : Receiver B, (∃ last c, r.Spanned base last c) →
        r.unwrapped f.superFrameNo ≠ int64Max := by
      rintro r ⟨last, c, hr⟩
      obtain ⟨c', hbound, -, hunwrapped, -⟩ := hr.unwrap hspan
      rw [hunwrapped]
      exact ne_of_lt (order_lt base _ hbound)
    generalize f.verdict src (t.bucketOf f.superFrameNo) (t.unwrapped f.superFrameNo) = v
    rcases (r.bucketOf f.superFrameNo).after_fields cfg now (r.unwrapped f.superFrameNo) memalign
        src (r.mStreams f.streamId) f v with ⟨hopen, horder, -⟩ | ⟨hopen, horder, -⟩ <;>
      rcases (t.bucketOf f.superFrameNo).after_fields cfg now (t.unwrapped f.superFrameNo)
        memalign src (t.mStreams f.streamId) f v with ⟨hopen', horder', -⟩ | ⟨hopen', horder', -⟩
    · rw [horder, horder']
      exact iff_of_false (hrecorded r h.full) (hrecorded t h.alone)
    · exact absurd hopen hopen'
    · exact absurd hopen' hopen
    · rw [horder, horder']
      exact h.opened hspan

/-- A packet of another superframe does nothing to the bucket of `s`. -/
theorem Isolated.handle_other {s : UInt16} {r t : Receiver B} (h : Isolated base s r t)
    (cfg : ReceiverConfig) (now : ℤ) (memalign : Bool) (src : UInt8) (f : Fragment)
    (hn : f.headerSize ≤ f.packet.length → B.InSpan base f.superFrameNo)
    (hs : f.superFrameNo ≠ s) : Isolated base s (r.handle cfg now memalign src f).1 t := by
  obtain ⟨last, c, hfull⟩ := h.full
  have hsame : B.InSpan base s →
      (r.handle cfg now memalign src f).1.bucketOf s = r.bucketOf s := by
    intro hspan
    by_cases hlen : f.headerSize ≤ f.packet.length
    · have hindex : B.index s ≠ B.index f.superFrameNo :=
        fun heq => hs (hspan.eq_of_index (hn hlen) heq).symm
      rw [bucketOf, handle_mpBuckets, Function.update_of_ne hindex, bucketOf]
    · rw [handle_eq, Fragment.verdict, if_pos (not_le.mp hlen), act_short]
  exact ⟨hfull.handle cfg now memalign src f hn, h.alone,
    fun hspan => by rw [hsame hspan]; exact h.own hspan,
    fun hspan => by rw [hsame hspan]; exact h.opened hspan⟩

/-- The frame of superframe `s` among the outputs. -/
def Output.ownFrame (s : UInt16) : Output B → Option SuperFrame
  | .nack _ => none
  | .deliver d => if d.frame.mSuperFrameNo = s then some d.frame.own else none

/-- The bucket of superframe `s`, while it waits for fragments. -/
def pendingOwn (r : Receiver B) (s : UInt16) : Option Bucket :=
  if (r.bucketOf s).mActive = true ∧ (r.bucketOf s).mSavedFrameNo = s then
    some (r.bucketOf s).own
  else none

theorem filterMap_ownFrame (s : UInt16) (os : List (Output B)) :
    os.filterMap (Output.ownFrame s) = (deliveries os).filterMap fun d =>
      if d.frame.mSuperFrameNo = s then some d.frame.own else none := by
  rw [deliveries, List.filterMap_filterMap]
  congr 1
  funext o
  cases o <;> rfl

/-- An active bucket of a receiver whose numbers lie in the span has the
number `s` just when it is the one `s` selects. -/
theorem Spanned.saved_iff {r : Receiver B} {last : Option UInt16} {c : ℤ}
    (h : r.Spanned base last c) {s : UInt16} {i : B.Index}
    (hact : (r.mpBuckets i).mActive = true) :
    (r.mpBuckets i).mSavedFrameNo = s ↔ B.InSpan base s ∧ i = B.index s := by
  rcases h.buckets i with ⟨hinactive, -⟩ | ⟨-, hopened⟩
  · rw [hinactive] at hact
    cases hact
  · constructor
    · rintro rfl
      exact ⟨hopened.inSpan, hopened.index.symm⟩
    · rintro ⟨hspan, rfl⟩
      exact hopened.inSpan.eq_of_index hspan hopened.index

/-- A pass delivers the frame of `s` if its bucket is due, and no other
frame of that number. -/
theorem Spanned.ownFrame_pass {r : Receiver B} {last : Option UInt16} {c : ℤ}
    (h : r.Spanned base last c) (cfg : ReceiverConfig) (clk : PassClock) (s : UInt16) :
    (r.processTimeouts cfg clk).2.filterMap (Output.ownFrame s) =
      if B.InSpan base s ∧ (r.bucketOf s).mActive = true ∧
          (r.bucketOf s).due cfg clk.timeouts = true then
        [(r.bucketOf s).delivered.own]
      else [] := by
  obtain ⟨-, hout⟩ := h.represented.passed cfg clk
  rw [filterMap_ownFrame, hout, List.filterMap_map]
  by_cases hspan : B.InSpan base s
  · have hone : ∀ i ∈ r.dueList cfg clk.timeouts,
        ((fun d : Delivery B => if d.frame.mSuperFrameNo = s then some d.frame.own else none) ∘
            fun i => { bucket := i, frame := (r.mpBuckets i).delivered }) i =
          if i = B.index s then some (r.bucketOf s).delivered.own else none := by
      intro i hi
      have hiff := h.saved_iff (s := s) (h.represented.mem_dueList.mp hi).1
      by_cases hsi : i = B.index s
      · subst hsi
        rw [if_pos rfl]
        exact if_pos (hiff.mpr ⟨hspan, rfl⟩)
      · rw [if_neg hsi]
        exact if_neg fun hsaved => hsi (hiff.mp hsaved).2
    rw [List.filterMap_congr hone, filterMap_ite_eq (h.represented.nodup_dueList cfg _)]
    simp only [h.represented.mem_dueList, hspan, true_and]
    rfl
  · rw [if_neg fun habs => hspan habs.1]
    refine List.filterMap_eq_nil_iff.mpr fun i hi => if_neg fun hsaved => ?_
    exact hspan ((h.saved_iff (h.represented.mem_dueList.mp hi).1).mp hsaved).1

theorem Spanned.pendingOwn_eq {r : Receiver B} {last : Option UInt16} {c : ℤ}
    (h : r.Spanned base last c) (s : UInt16) :
    r.pendingOwn s = if B.InSpan base s ∧ (r.bucketOf s).own.mActive = true then
      some (r.bucketOf s).own else none := by
  unfold pendingOwn
  refine if_congr ?_ rfl rfl
  constructor
  · rintro ⟨hact, hsaved⟩
    exact ⟨((h.saved_iff hact).mp hsaved).1, hact⟩
  · rintro ⟨hspan, hact⟩
    exact ⟨hact, (h.saved_iff hact).mpr ⟨hspan, rfl⟩⟩

theorem Isolated.pass {s : UInt16} {r t : Receiver B} (h : Isolated base s r t)
    (cfg : ReceiverConfig) (clk : PassClock) :
    Isolated base s (r.processTimeouts cfg clk).1 (t.processTimeouts cfg clk).1 ∧
      (r.processTimeouts cfg clk).2.filterMap (Output.ownFrame s) =
        (t.processTimeouts cfg clk).2.filterMap (Output.ownFrame s) := by
  obtain ⟨last, c, hfull⟩ := h.full
  obtain ⟨last', c', halone⟩ := h.alone
  obtain ⟨hpass, -⟩ := hfull.represented.passed cfg clk
  obtain ⟨hpass', -⟩ := halone.represented.passed cfg clk
  have hdue : B.InSpan base s →
      (r.bucketOf s).due cfg clk.timeouts = (t.bucketOf s).due cfg clk.timeouts :=
    fun hspan => Bucket.eq_of_own (h.own hspan) (fun b => b.due cfg clk.timeouts) fun _ => rfl
  have hactive : B.InSpan base s → (r.bucketOf s).mActive = (t.bucketOf s).mActive :=
    fun hspan => Bucket.eq_of_own (h.own hspan) Bucket.mActive fun _ => rfl
  refine ⟨⟨⟨last, c, hfull.pass cfg clk⟩, ⟨last', c', halone.pass cfg clk⟩, fun hspan => ?_,
    fun hspan => ?_⟩, ?_⟩
  · rw [bucketOf, bucketOf, hpass.bucket_eq Bucket.own Bucket.own_core,
      hpass'.bucket_eq Bucket.own Bucket.own_core, Bucket.own_closed, Bucket.own_closed]
    change (if (r.bucketOf s).mActive = true ∧ (r.bucketOf s).due cfg clk.timeouts = true then
      (r.bucketOf s).own.closed else (r.bucketOf s).own) = _
    rw [hactive hspan, hdue hspan, h.own hspan]
    rfl
  · have horder : ∀ (r r' : Receiver B), Passed cfg clk.timeouts r r' →
        (r'.bucketOf s).mDeliveryOrder = (r.bucketOf s).mDeliveryOrder := fun r r' hpass =>
      (hpass.bucket_eq Bucket.mDeliveryOrder (fun _ => rfl) _).trans (ite_self _)
    rw [horder r _ hpass, horder t _ hpass']
    exact h.opened hspan
  · rw [hfull.ownFrame_pass, halone.ownFrame_pass]
    by_cases hspan : B.InSpan base s
    · rw [hactive hspan, hdue hspan, ← Bucket.own_delivered, h.own hspan, Bucket.own_delivered]
    · rw [if_neg fun habs => hspan habs.1, if_neg fun habs => hspan habs.1]

end Receiver

/-! ### Every run -/

/-- The fragment a call hands to one of the fragment handlers. -/
def Call.fragment? : Call → Option Fragment
  | .packet _ aData _ =>
      if aData = [] then none
      else
        match getFrameType (byteAt aData 0) with
        | some .type1 => some (.type1 aData)
        | some .type2 => some (.type2 aData)
        | some .type3 => some (.type3 aData)
        | _ => none
  | .pass _ => none

/-- The call is a Type1, Type2 or Type3 packet whose number, if the packet is
long enough to have one, lies in the span, or it is a pass. -/
def Call.InSpan (B : BufferSize) (base : UInt16) : Call → Prop
  | .packet env aData src => ∃ f, (Call.packet env aData src).fragment? = some f ∧
      (f.headerSize ≤ f.packet.length → B.InSpan base f.superFrameNo)
  | .pass _ => True

def Call.concerns (s : UInt16) : Call → Bool
  | .packet env aData src =>
      decide ((Call.packet env aData src).fragment?.map Fragment.superFrameNo = some s)
  | .pass _ => true

namespace Receiver

variable {B : BufferSize} {base : UInt16}

theorem step_fragment (cfg : ReceiverConfig) (r : Receiver B) {env : Surroundings}
    {aData : List UInt8} {src : UInt8} {f : Fragment}
    (h : (Call.packet env aData src).fragment? = some f) :
    (machine B cfg).step r (.packet env aData src) =
      ((r.handle cfg (env.nowUs 0) (env.memalign 0) src f).1, []) := by
  simp only [Call.fragment?] at h
  split_ifs at h with hempty
  simp only [machine, dispatch, if_neg hempty]
  split at h <;> cases h
  all_goals
    rename_i htype
    rw [htype]
    rfl

/-- What comes of superframe `s` in a run: the frames delivered, in order,
and the bucket that still waits. -/
def outcome (s : UInt16) (run : Receiver B × List (Output B)) :
    List SuperFrame × Option Bucket :=
  (run.2.filterMap (Output.ownFrame s), run.1.pendingOwn s)

theorem isolated_run (cfg : ReceiverConfig) (s : UInt16) (cs : List Call)
    (hspan : ∀ c ∈ cs, c.InSpan B base) :
    outcome s ((machine B cfg).run (Receiver.fresh B) cs) =
      outcome s ((machine B cfg).run (Receiver.fresh B) (cs.filter (Call.concerns s))) := by
  have hfresh : Isolated base s (Receiver.fresh B) (Receiver.fresh B) :=
    ⟨⟨none, 0, spanned_fresh⟩, ⟨none, 0, spanned_fresh⟩, fun _ => rfl, fun _ => Iff.rfl⟩
  have halong : ∀ (cs : List Call) (r : Receiver B), (∀ c ∈ cs, c.InSpan B base) →
      (machine B cfg).Along (fun _ c => c.InSpan B base) r cs := fun cs r h => by
    induction cs generalizing r with
    | nil => trivial
    | cons c cs ih => exact ⟨h c (by simp), ih _ fun c hc => h c (by simp [hc])⟩
  have hrun := (machine B cfg).run_kept (machine B cfg) (fun _ => Call.concerns s)
    (R := Isolated base s) (C := fun _ c => c.InSpan B base)
    (fun r t c hR hC hkeep => by
      cases c with
      | packet env aData src =>
          obtain ⟨f, hf, hn⟩ := hC
          have hs : f.superFrameNo = s := by simpa [Call.concerns, hf] using hkeep
          rw [step_fragment cfg r hf, step_fragment cfg t hf]
          exact ⟨hR.handle cfg _ _ src f hn hs, rfl⟩
      | pass clk => exact hR.pass cfg clk)
    (fun r t c hR hC hdrop => by
      cases c with
      | packet env aData src =>
          obtain ⟨f, hf, hn⟩ := hC
          have hs : f.superFrameNo ≠ s := by simpa [Call.concerns, hf] using hdrop
          rw [step_fragment cfg r hf]
          exact ⟨hR.handle_other cfg _ _ src f hn hs, rfl⟩
      | pass clk => cases hdrop)
    hfresh (halong cs _ hspan)
  rw [Machine.kept_eq_filter] at hrun
  obtain ⟨hend, hout⟩ := hrun
  obtain ⟨last, c, hfull⟩ := hend.full
  obtain ⟨last', c', halone⟩ := hend.alone
  rw [outcome, outcome, hout, hfull.pendingOwn_eq, halone.pendingOwn_eq]
  by_cases hs : B.InSpan base s
  · rw [hend.own hs]
  · rw [if_neg fun habs => hs habs.1, if_neg fun habs => hs habs.1]

/-- Each superframe of the span fares as if its packets had come alone, at
the same times and between the same passes; so any two runs that interleave
the same packets of each superframe have the same outcome for it. -/
theorem outcome_isolated (B : BufferSize) (cfg : ReceiverConfig) (base : UInt16)
    (cs : List Call) (hspan : ∀ c ∈ cs, c.InSpan B base) :
    (∀ s, outcome s ((machine B cfg).run (Receiver.fresh B) cs) =
      outcome s ((machine B cfg).run (Receiver.fresh B) (cs.filter (Call.concerns s)))) ∧
    ∀ cs' : List Call, (∀ c ∈ cs', c.InSpan B base) →
      (∀ s, cs'.filter (Call.concerns s) = cs.filter (Call.concerns s)) →
      ∀ s, outcome s ((machine B cfg).run (Receiver.fresh B) cs') =
        outcome s ((machine B cfg).run (Receiver.fresh B) cs) := by
  refine ⟨fun s => isolated_run cfg s cs hspan, fun cs' hspan' hsame s => ?_⟩
  rw [isolated_run cfg s cs' hspan', hsame, ← isolated_run cfg s cs hspan]

/-- A packet of an unfinished superframe and a copy of it, with a whole
superframe in between. -/
def crossedRun : List Call :=
  [.packet Sample.env (Sample.type2 0 1 1 [7]) 0, .packet Sample.env (Sample.type1 1 [8]) 0,
    .packet Sample.env (Sample.type2 0 1 1 [7]) 0, .pass Sample.clk]

theorem outcome_isolated_crossedRun :
    (∀ s, outcome s ((machine .default {}).run (Receiver.fresh .default) crossedRun) =
      outcome s ((machine .default {}).run (Receiver.fresh .default)
        (crossedRun.filter (Call.concerns s)))) ∧
    ∀ cs' : List Call, (∀ c ∈ cs', c.InSpan .default 0) →
      (∀ s, cs'.filter (Call.concerns s) = crossedRun.filter (Call.concerns s)) →
      ∀ s, outcome s ((machine .default {}).run (Receiver.fresh .default) cs') =
        outcome s ((machine .default {}).run (Receiver.fresh .default) crossedRun) := by
  refine outcome_isolated .default {} 0 crossedRun fun c hc => ?_
  have hspan : ∀ n : UInt16, n.toNat ≤ 1 → BufferSize.default.InSpan 0 n := by
    intro n hn
    rw [BufferSize.InSpan, sub_zero]
    exact lt_of_le_of_lt hn (by decide)
  simp only [crossedRun, List.mem_cons, List.not_mem_nil, or_false] at hc
  rcases hc with rfl | rfl | rfl | rfl
  · exact ⟨.type2 (Sample.type2 0 1 1 [7]), rfl, fun _ => hspan _ (by decide)⟩
  · exact ⟨.type1 (Sample.type1 1 [8]), rfl, fun _ => hspan _ (by decide)⟩
  · exact ⟨.type2 (Sample.type2 0 1 1 [7]), rfl, fun _ => hspan _ (by decide)⟩
  · trivial

end Receiver

end ElasticFrame
