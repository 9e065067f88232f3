import ElasticFrame.Receiver.Pass
import ElasticFrame.Lib.Unwrap
import ElasticFrame.Lib.TreeMap

/-!
The representation invariant of the receiver: the bucket map and the active
buckets are the same set, an active bucket belongs where its superframe
number puts it, and its bitset, counts and frame fit together.

That two active buckets never share a key of the map rests on the unwrapped
order staying congruent to the 16-bit number it comes from: equal orders
give equal numbers, and equal numbers the same position.
-/

namespace ElasticFrame

open Lib

/-! ### Unwrapping -/

theorem UInt16.toInt_toInt16 (x : UInt16) : x.toInt16.toInt = Int.bmod x.toNat 65536 :=
  BitVec.toInt_eq_toNat_bmod x.toBitVec

theorem UInt16.toNat_sub_modEq (a b : UInt16) :
    ((a - b).toNat : ℤ) ≡ a.toNat - b.toNat [ZMOD 65536] := by
  have ha := a.toNat_lt
  have hb := b.toNat_lt
  rw [UInt16.toNat_sub]
  simp only [Int.ModEq]
  omega

theorem UInt16.toInt_sub_toInt16 (a b : UInt16) :
    (a - b).toInt16.toInt = Int.bmod (a.toNat - b.toNat) 65536 := by
  rw [UInt16.toInt_toInt16]
  exact Unwrap.bmod_congr (UInt16.toNat_sub_modEq a b)

theorem UInt16.eq_of_modEq {a b : UInt16} (h : (a.toNat : ℤ) ≡ b.toNat [ZMOD 65536]) :
    a = b := by
  have ha := a.toNat_lt
  have hb := b.toNat_lt
  simp only [Int.ModEq] at h
  exact UInt16.toNat_inj.mp (by omega)

namespace FrameNoTracking

/-- The unwrapped number has the number last seen as its residue. -/
def Congruent (t : FrameNoTracking) : Prop :=
  t.mFirstFrame = false → t.mFrameNoRecalc ≡ t.mOldFrameNo.toNat [ZMOD 65536]

theorem recalculate_modEq {t : FrameNoTracking} (h : t.Congruent) (n : UInt16) :
    (t.recalculateSuperFrameNo n).mFrameNoRecalc ≡ n.toNat [ZMOD 65536] := by
  unfold recalculateSuperFrameNo
  cases hfirst : t.mFirstFrame with
  | true => simp
  | false =>
      have hdelta : ((n - t.mOldFrameNo).toInt16.toInt) ≡ n.toNat - t.mOldFrameNo.toNat
          [ZMOD 65536] := by
        rw [UInt16.toInt_sub_toInt16]
        exact Unwrap.bmod_modEq _ 65536
      have hsum := (h hfirst).add hdelta
      simpa using hsum

theorem recalculate_congruent {t : FrameNoTracking} (h : t.Congruent) (n : UInt16) :
    (t.recalculateSuperFrameNo n).Congruent := by
  intro _
  have hold : (t.recalculateSuperFrameNo n).mOldFrameNo = n := by
    unfold recalculateSuperFrameNo
    split_ifs <;> rfl
  rw [hold]
  exact recalculate_modEq h n

end FrameNoTracking

/-! ### The invariant -/

/-- What holds of an active bucket at position `i` on its own. -/
structure Bucket.WellFormed {B : BufferSize} (i : B.Index) (b : Bucket) : Prop where
  index : B.index b.mSavedFrameNo = i
  order : b.mDeliveryOrder ≡ b.mSavedFrameNo.toNat [ZMOD 65536]
  of_lt : b.mOfFragmentNo < 8192
  received_le : ∀ k ∈ b.mReceivedFragments, k ≤ b.mOfFragmentNo
  count : b.mFragmentCount = b.mReceivedFragments.card
  nonempty : b.mReceivedFragments.Nonempty
  frame : b.block.isSome

theorem Bucket.wellFormed_core {B : BufferSize} {i : B.Index} {b : Bucket} :
    b.core.WellFormed i ↔ b.WellFormed i :=
  ⟨fun ⟨h₁, h₂, h₃, h₄, h₅, h₆, h₇⟩ => ⟨h₁, h₂, h₃, h₄, h₅, h₆, h₇⟩,
    fun ⟨h₁, h₂, h₃, h₄, h₅, h₆, h₇⟩ => ⟨h₁, h₂, h₃, h₄, h₅, h₆, h₇⟩⟩

namespace Receiver

variable {B : BufferSize}

structure Represented (r : Receiver B) : Prop where
  mapped : ∀ (o : ℤ) (i : B.Index), r.mBucketMap[o]? = some i ↔
    (r.mpBuckets i).mActive = true ∧ (r.mpBuckets i).mDeliveryOrder = o
  wellFormed : ∀ i, (r.mpBuckets i).mActive = true → (r.mpBuckets i).WellFormed i
  congruent : r.frameNo.Congruent

theorem represented_fresh : (Receiver.fresh B).Represented where
  mapped o i := by simp [fresh]
  wellFormed i hact := by simp [fresh] at hact
  congruent hfirst := by simp [fresh] at hfirst

theorem Represented.alike {r r' : Receiver B} (h : r.Represented) (halike : r.Alike r') :
    r'.Represented where
  mapped o i := by
    rw [← halike.map, h.mapped, halike.bucket_eq Bucket.mActive (fun _ => rfl),
      halike.bucket_eq Bucket.mDeliveryOrder (fun _ => rfl)]
  wellFormed i hact := by
    rw [← halike.bucket_eq Bucket.mActive (fun _ => rfl)] at hact
    have hwf := Bucket.wellFormed_core.mpr (h.wellFormed i hact)
    rw [halike.buckets i] at hwf
    exact Bucket.wellFormed_core.mp hwf
  congruent := halike.frameNo ▸ h.congruent

/-- Two active buckets with one order are the same bucket, and so are an
active bucket and the one a number of that order selects. -/
theorem Represented.index_of_order {r : Receiver B} (h : r.Represented) {i : B.Index}
    (hact : (r.mpBuckets i).mActive = true) {n : UInt16} {o : ℤ}
    (ho : o ≡ n.toNat [ZMOD 65536]) (hio : (r.mpBuckets i).mDeliveryOrder = o) :
    i = B.index n := by
  have hwf := h.wellFormed i hact
  have hn : (r.mpBuckets i).mSavedFrameNo = n :=
    UInt16.eq_of_modEq (hwf.order.symm.trans (hio ▸ ho))
  rw [← hwf.index, hn]

theorem Represented.unwrapped_modEq {r : Receiver B} (h : r.Represented) (n : UInt16) :
    r.unwrapped n ≡ n.toNat [ZMOD 65536] :=
  FrameNoTracking.recalculate_modEq h.congruent n

/-- The order a number unwraps to is not in the map while the bucket the
number selects is not active. -/
theorem Represented.unmapped {r : Receiver B} (h : r.Represented) {n : UInt16}
    (hact : (r.bucketOf n).mActive = false) : r.mBucketMap[r.unwrapped n]? = none := by
  cases hget : r.mBucketMap[r.unwrapped n]? with
  | none => rfl
  | some i =>
      obtain ⟨hi, ho⟩ := (h.mapped _ i).mp hget
      have hin := h.index_of_order hi (h.unwrapped_modEq n) ho
      rw [bucketOf, ← hin, hi] at hact
      cases hact

end Receiver

/-! ### One packet -/

theorem Bucket.wellFormed_openedWith {B : BufferSize} (b : Bucket) (cfg : ReceiverConfig)
    (now lOrder : ℤ) (f : Fragment) (src : UInt8) (s : Stream) (hadm : f.Admissible)
    (hpos : 0 < f.totalSize) (ho : lOrder ≡ f.superFrameNo.toNat [ZMOD 65536]) :
    (b.openedWith cfg now lOrder (f.opening src s) f.packet).WellFormed
      (B.index f.superFrameNo) where
  index := rfl
  order := ho
  of_lt := hadm.of_lt
  received_le k hk := by
    rw [show k = f.slot from Finset.mem_singleton.mp hk]
    exact hadm.slot_le
  count := (Finset.card_singleton f.slot).symm
  nonempty := Finset.singleton_nonempty f.slot
  frame := by
    rw [(b.block_openedWith cfg now lOrder (f.opening src s) f.packet hpos).1]
    rfl

/-- What filling a slot does to everything but sizes, metadata and frame. -/
theorem Bucket.fill_fields (b : Bucket) (f : Fragment) :
    (b.fill f).mActive = b.mActive ∧ (b.fill f).mSavedFrameNo = b.mSavedFrameNo ∧
      (b.fill f).mDeliveryOrder = b.mDeliveryOrder ∧
      (b.fill f).mOfFragmentNo = b.mOfFragmentNo ∧
      (b.fill f).mFragmentSize = b.mFragmentSize ∧
      (b.fill f).mStreamId = b.mStreamId ∧ (b.fill f).mSourceId = b.mSourceId ∧
      (b.fill f).mReceivedFragments = insert f.slot b.mReceivedFragments ∧
      (b.fill f).mFragmentCount = b.mFragmentCount + 1 := by
  cases f <;> exact ⟨rfl, rfl, rfl, rfl, rfl, rfl, rfl, rfl, rfl⟩

theorem Bucket.WellFormed.fill {B : BufferSize} {i : B.Index} {b : Bucket}
    (h : b.WellFormed i) {f : Fragment} {src : UInt8} (hadm : f.Admissible)
    (hfits : f.Fits src b) : (b.fill f).WellFormed i := by
  obtain ⟨-, hsaved, horder, hof, -, -, -, hreceived, hcount⟩ := b.fill_fields f
  obtain ⟨blk, hblk⟩ := Option.isSome_iff_exists.mp h.frame
  refine ⟨?_, ?_, ?_, ?_, ?_, ?_, by rw [(Bucket.block_fill f hblk).1]; rfl⟩
  · rw [hsaved, h.index]
  · rw [hsaved, horder]
    exact h.order
  · rw [hof]
    exact h.of_lt
  · rw [hreceived, hof]
    intro k hk
    rcases Finset.mem_insert.mp hk with rfl | hk
    · exact hfits.ofFragmentNo ▸ hadm.slot_le
    · exact h.received_le k hk
  · rw [hreceived, hcount, Finset.card_insert_of_notMem hfits.slot, h.count]
  · rw [hreceived]
    exact Finset.insert_nonempty _ _

namespace Receiver

variable {B : BufferSize}

/-- Opening a bucket that is not active enters it, and nothing else, in the
map. -/
theorem Represented.open {r r' : Receiver B} (h : r.Represented) {n : UInt16} {b : Bucket}
    {ss : UInt8 → Stream} (hact : (r.bucketOf n).mActive = false)
    (hbact : b.mActive = true) (hborder : b.mDeliveryOrder = r.unwrapped n)
    (hb : b.WellFormed (B.index n))
    (has : r'.Has (Function.update r.mpBuckets (B.index n) b)
      (r.mBucketMap.insert (r.unwrapped n) (B.index n)) ss
      (r.frameNo.recalculateSuperFrameNo n)) : r'.Represented := by
  refine ⟨fun o i => ?_, fun i => ?_, ?_⟩
  · rw [has.mBucketMap, has.mpBuckets, TreeMap.getElem?_insert]
    by_cases hi : i = B.index n
    · subst hi
      rw [Function.update_self, hbact, hborder]
      by_cases ho : r.unwrapped n = o
      · simp [ho]
      · have hold : ¬ r.mBucketMap[o]? = some (B.index n) := by
          rw [h.mapped, show (r.mpBuckets (B.index n)).mActive = false from hact]
          simp
        simp [ho, hold]
    · rw [Function.update_of_ne hi]
      by_cases ho : r.unwrapped n = o
      · have hno : ¬ ((r.mpBuckets i).mActive = true ∧ (r.mpBuckets i).mDeliveryOrder = o) := by
          rintro ⟨hi', hio⟩
          exact hi (h.index_of_order hi' (ho ▸ h.unwrapped_modEq n) hio)
        simp [ho, hno, Ne.symm hi]
      · rw [if_neg ho, h.mapped]
  · rw [has.mpBuckets]
    by_cases hi : i = B.index n
    · subst hi
      rw [Function.update_self]
      exact fun _ => hb
    · rw [Function.update_of_ne hi]
      exact h.wellFormed i
  · rw [has.frameNo]
    exact FrameNoTracking.recalculate_congruent h.congruent n

theorem Represented.fail {r r' : Receiver B} (h : r.Represented) {n : UInt16} {b : Bucket}
    {ss : UInt8 → Stream} (hact : (r.bucketOf n).mActive = false) (hbact : b.mActive = false)
    (has : r'.Has (Function.update r.mpBuckets (B.index n) b)
      ((r.mBucketMap.insert (r.unwrapped n) (B.index n)).erase (r.unwrapped n)) ss
      (r.frameNo.recalculateSuperFrameNo n)) :
    r'.Represented ∧ r'.mBucketMap = r.mBucketMap := by
  have hmap : r'.mBucketMap = r.mBucketMap := by
    rw [has.mBucketMap]
    refine Std.ExtTreeMap.ext_getElem? fun o => ?_
    rw [TreeMap.getElem?_erase, TreeMap.getElem?_insert]
    by_cases ho : r.unwrapped n = o
    · rw [if_pos ho, ← ho, h.unmapped hact]
    · rw [if_neg ho, if_neg ho]
  refine ⟨⟨fun o i => ?_, fun i => ?_, ?_⟩, hmap⟩
  · rw [hmap, h.mapped, has.mpBuckets]
    by_cases hi : i = B.index n
    · subst hi
      rw [Function.update_self, hbact, show (r.mpBuckets (B.index n)).mActive = false from hact]
      simp
    · rw [Function.update_of_ne hi]
  · rw [has.mpBuckets]
    by_cases hi : i = B.index n
    · subst hi
      rw [Function.update_self, hbact]
      exact fun habs => absurd habs (by simp)
    · rw [Function.update_of_ne hi]
      exact h.wellFormed i
  · rw [has.frameNo]
    exact FrameNoTracking.recalculate_congruent h.congruent n

theorem Represented.fill {r r' : Receiver B} (h : r.Represented) {f : Fragment} {src : UInt8}
    {ss : UInt8 → Stream} (hfills : r.Fills f src)
    (has : r'.Has (Function.update r.mpBuckets (B.index f.superFrameNo)
      ((r.bucketOf f.superFrameNo).fill f)) r.mBucketMap ss r.frameNo) : r'.Represented := by
  obtain ⟨hact, -, horder, -⟩ := (r.bucketOf f.superFrameNo).fill_fields f
  refine ⟨fun o i => ?_, fun i => ?_, ?_⟩
  · rw [has.mBucketMap, has.mpBuckets, h.mapped]
    by_cases hi : i = B.index f.superFrameNo
    · subst hi
      rw [Function.update_self, hact, horder]
      rfl
    · rw [Function.update_of_ne hi]
  · rw [has.mpBuckets]
    by_cases hi : i = B.index f.superFrameNo
    · subst hi
      rw [Function.update_self]
      exact fun _ => (h.wellFormed _ hfills.active).fill hfills.admissible hfills.fits
    · rw [Function.update_of_ne hi]
      exact h.wellFormed i
  · rw [has.frameNo]
    exact h.congruent

theorem Represented.has {r r' : Receiver B} (h : r.Represented) {ss : UInt8 → Stream}
    {t : FrameNoTracking} (ht : t.Congruent)
    (has : r'.Has r.mpBuckets r.mBucketMap ss t) : r'.Represented where
  mapped o i := by rw [has.mBucketMap, has.mpBuckets, h.mapped]
  wellFormed i := by
    rw [has.mpBuckets]
    exact h.wellFormed i
  congruent := has.frameNo ▸ ht

theorem represented_handle {r : Receiver B} (h : r.Represented) (cfg : ReceiverConfig)
    (now : ℤ) (memalign : Bool) (src : UInt8) (f : Fragment) :
    (r.handle cfg now memalign src f).1.Represented := by
  rcases hr : r.handle cfg now memalign src f with ⟨r', res⟩
  have hstep := r.handled cfg now memalign src f
  rw [hr] at hstep
  cases hstep with
  | refused has => exact h.has h.congruent has
  | stale has => exact h.has (FrameNoTracking.recalculate_congruent h.congruent _) has
  | failed opens _ has => exact (h.fail opens.inactive rfl has).1
  | opened opens alloc has =>
      exact h.open opens.inactive rfl rfl
        (Bucket.wellFormed_openedWith _ cfg now _ f src _ opens.admissible alloc.1
          (h.unwrapped_modEq _)) has
  | filled fills has => exact h.fill fills has

/-- Open buckets stay open and keep their NACK bookkeeping, and those that are
opened have had no NACK. -/
structure Kept (r r' : Receiver B) : Prop where
  active : ∀ i, (r.mpBuckets i).mActive = true → (r'.mpBuckets i).mActive = true ∧
    (r'.mpBuckets i).mDeliveryOrder = (r.mpBuckets i).mDeliveryOrder ∧
    (r'.mpBuckets i).mNackCount = (r.mpBuckets i).mNackCount ∧
    (r'.mpBuckets i).mLastNackUs = (r.mpBuckets i).mLastNackUs
  opened : ∀ i, (r.mpBuckets i).mActive = false → (r'.mpBuckets i).mActive = true →
    (r'.mpBuckets i).mNackCount = 0 ∧ (r'.mpBuckets i).mLastNackUs = 0

theorem Kept.of_eq {r r' : Receiver B} (h : r'.mpBuckets = r.mpBuckets) : r.Kept r' where
  active i hact := by
    rw [h]
    exact ⟨hact, rfl, rfl, rfl⟩
  opened i hinact hact := by
    rw [h, hinact] at hact
    cases hact

theorem Kept.trans {r r' r'' : Receiver B} (h : r.Kept r') (h' : r'.Kept r'') : r.Kept r'' where
  active i hact := by
    obtain ⟨hact', horder, hcount, hlast⟩ := h.active i hact
    obtain ⟨hact'', horder', hcount', hlast'⟩ := h'.active i hact'
    exact ⟨hact'', horder'.trans horder, hcount'.trans hcount, hlast'.trans hlast⟩
  opened i hinact hact := by
    cases hmid : (r'.mpBuckets i).mActive with
    | true =>
        obtain ⟨-, -, hcount, hlast⟩ := h'.active i hmid
        rw [hcount, hlast]
        exact h.opened i hinact hmid
    | false => exact h'.opened i hmid hact

theorem Kept.update {r r' : Receiver B} {i : B.Index} {b : Bucket}
    (h : r'.mpBuckets = Function.update r.mpBuckets i b)
    (hactive : (r.mpBuckets i).mActive = true → b.mActive = true ∧
      b.mDeliveryOrder = (r.mpBuckets i).mDeliveryOrder ∧
      b.mNackCount = (r.mpBuckets i).mNackCount ∧ b.mLastNackUs = (r.mpBuckets i).mLastNackUs)
    (hopened : (r.mpBuckets i).mActive = false → b.mActive = true →
      b.mNackCount = 0 ∧ b.mLastNackUs = 0) :
    r.Kept r' where
  active j hact := by
    rw [h]
    by_cases hj : j = i
    · subst hj
      rw [Function.update_self]
      exact hactive hact
    · rw [Function.update_of_ne hj]
      exact ⟨hact, rfl, rfl, rfl⟩
  opened j hinact hact := by
    rw [h] at hact ⊢
    by_cases hj : j = i
    · subst hj
      rw [Function.update_self] at hact ⊢
      exact hopened hinact hact
    · rw [Function.update_of_ne hj, hinact] at hact
      cases hact

theorem kept_handle (cfg : ReceiverConfig) (r : Receiver B) (now : ℤ) (memalign : Bool)
    (src : UInt8) (f : Fragment) : r.Kept (r.handle cfg now memalign src f).1 := by
  rcases hr : r.handle cfg now memalign src f with ⟨r', res⟩
  have hstep := r.handled cfg now memalign src f
  rw [hr] at hstep
  cases hstep with
  | refused has => exact .of_eq has.mpBuckets
  | stale has => exact .of_eq has.mpBuckets
  | failed opens _ has =>
      apply Kept.update has.mpBuckets
      · exact fun hact => absurd (opens.inactive.symm.trans hact) (by decide)
      · exact fun _ habs => nomatch habs
  | opened opens _ has =>
      apply Kept.update has.mpBuckets
      · exact fun hact => absurd (opens.inactive.symm.trans hact) (by decide)
      · exact fun _ _ => ⟨rfl, rfl⟩
  | filled fills has =>
      obtain ⟨hact, -, horder, -⟩ := (r.bucketOf f.superFrameNo).fill_fields f
      apply Kept.update has.mpBuckets
      · refine fun _ => ⟨hact.trans fills.active, horder, ?_⟩
        cases f <;> exact ⟨rfl, rfl⟩
      · exact fun hinact => absurd (hinact.symm.trans fills.active) (by decide)

theorem kept_dispatch (cfg : ReceiverConfig) (r : Receiver B) (env : Surroundings)
    (aData : List UInt8) (src : UInt8) : r.Kept (r.dispatch cfg env aData src).1 :=
  dispatch_invariant (I := r.Kept)
    (fun s now memalign f hs => hs.trans (kept_handle cfg s now memalign src f))
    (fun _ hs => hs.trans (.of_eq rfl)) env aData (.of_eq rfl)

/-! ### One pass -/

/-- The positions of the map's entries, in the order of their keys. -/
def pending (r : Receiver B) : List B.Index := r.mBucketMap.toList.map Prod.snd

/-- The positions a pass at time `now` delivers, in the order it does. -/
def dueList (r : Receiver B) (cfg : ReceiverConfig) (now : ℤ) : List B.Index :=
  r.pending.filter fun i => (r.mpBuckets i).due cfg now

theorem Represented.mem_pending {r : Receiver B} (h : r.Represented) {i : B.Index} :
    i ∈ r.pending ↔ (r.mpBuckets i).mActive = true := by
  simp only [pending, List.mem_map]
  constructor
  · rintro ⟨⟨o, j⟩, hmem, rfl⟩
    exact ((h.mapped o j).mp (Std.ExtTreeMap.mem_toList_iff_getElem?_eq_some.mp hmem)).1
  · intro hact
    exact ⟨((r.mpBuckets i).mDeliveryOrder, i),
      Std.ExtTreeMap.mem_toList_iff_getElem?_eq_some.mpr ((h.mapped _ i).mpr ⟨hact, rfl⟩), rfl⟩

theorem Represented.mem_dueList {r : Receiver B} (h : r.Represented) {cfg : ReceiverConfig}
    {now : ℤ} {i : B.Index} : i ∈ r.dueList cfg now ↔
      (r.mpBuckets i).mActive = true ∧ (r.mpBuckets i).due cfg now = true := by
  rw [dueList, List.mem_filter, h.mem_pending]

/-- The map lists the active buckets by increasing delivery order. -/
theorem Represented.pending_sorted {r : Receiver B} (h : r.Represented) :
    r.pending.Pairwise fun i j =>
      (r.mpBuckets i).mDeliveryOrder < (r.mpBuckets j).mDeliveryOrder := by
  rw [pending, List.pairwise_map]
  refine Std.ExtTreeMap.ordered_keys_toList.imp_of_mem ?_
  rintro ⟨k, i⟩ ⟨l, j⟩ hi hj hlt
  obtain ⟨-, hk⟩ := (h.mapped k i).mp (Std.ExtTreeMap.mem_toList_iff_getElem?_eq_some.mp hi)
  obtain ⟨-, hl⟩ := (h.mapped l j).mp (Std.ExtTreeMap.mem_toList_iff_getElem?_eq_some.mp hj)
  rw [hk, hl]
  exact compare_lt_iff_lt.mp hlt

theorem Represented.nodup_pending {r : Receiver B} (h : r.Represented) : r.pending.Nodup :=
  h.pending_sorted.imp fun hlt hij => absurd (hij ▸ hlt) (lt_irrefl _)

theorem Represented.dueList_sorted {r : Receiver B} (h : r.Represented) (cfg : ReceiverConfig)
    (now : ℤ) : (r.dueList cfg now).Pairwise fun i j =>
      (r.mpBuckets i).mDeliveryOrder < (r.mpBuckets j).mDeliveryOrder :=
  h.pending_sorted.sublist List.filter_sublist

theorem Represented.nodup_dueList {r : Receiver B} (h : r.Represented) (cfg : ReceiverConfig)
    (now : ℤ) : (r.dueList cfg now).Nodup :=
  h.nodup_pending.filter _

theorem Alike.dueList_eq {r r' : Receiver B} (h : r.Alike r') (cfg : ReceiverConfig)
    (now : ℤ) : r.dueList cfg now = r'.dueList cfg now := by
  have hdue : ∀ i, (r.mpBuckets i).due cfg now = (r'.mpBuckets i).due cfg now :=
    h.bucket_eq (fun b => b.due cfg now) (fun _ => rfl)
  simp only [dueList, pending, h.map, hdue]

/-- What a pass at time `now` makes of a receiver. -/
structure Passed (cfg : ReceiverConfig) (now : ℤ) (r r' : Receiver B) : Prop where
  buckets : ∀ i, (r'.mpBuckets i).core =
    if (r.mpBuckets i).mActive = true ∧ (r.mpBuckets i).due cfg now = true then
      (r.mpBuckets i).core.closed
    else (r.mpBuckets i).core
  map : ∀ (o : ℤ) (i : B.Index), r'.mBucketMap[o]? = some i ↔
    r.mBucketMap[o]? = some i ∧ (r.mpBuckets i).due cfg now = false
  streams : r'.mStreams = r.mStreams
  frameNo : r'.frameNo = r.frameNo

/-- The step lemma of a pass: the due buckets are closed and their frames
delivered in delivery order. -/
theorem Represented.passed {r : Receiver B} (h : r.Represented) (cfg : ReceiverConfig)
    (clk : PassClock) : Passed cfg clk.timeouts r (r.processTimeouts cfg clk).1 ∧
      deliveries (r.processTimeouts cfg clk).2 =
        (r.dueList cfg clk.timeouts).map fun i =>
          { bucket := i, frame := (r.mpBuckets i).delivered } := by
  have halike := r.processNacks_alike cfg clk
  set s := (r.processNacks cfg clk).1 with hs
  have hrep := h.alike halike
  have hsort : (s.dueList cfg clk.timeouts).insertionSort (fun i j =>
      (s.mpBuckets i).mDeliveryOrder ≤ (s.mpBuckets j).mDeliveryOrder) =
        s.dueList cfg clk.timeouts :=
    ((hrep.dueList_sorted cfg clk.timeouts).imp le_of_lt).insertionSort_eq
  have hpass : r.processTimeouts cfg clk =
      ((deliverFrames (s.dueList cfg clk.timeouts) s).1,
        (r.processNacks cfg clk).2.map Output.nack ++
          (deliverFrames (s.dueList cfg clk.timeouts) s).2.map Output.deliver) := by
    rw [processTimeouts, ← hs]
    exact congrArg (fun l => ((deliverFrames l s).1, (r.processNacks cfg clk).2.map Output.nack ++
      (deliverFrames l s).2.map Output.deliver)) hsort
  obtain ⟨hout, hbuckets, hmap, hstreams, hno⟩ :=
    deliverFrames_spec (s.dueList cfg clk.timeouts) s (hrep.nodup_dueList cfg clk.timeouts)
      (fun i hi => by
        have hframe := (hrep.wellFormed i (hrep.mem_dueList.mp hi).1).frame
        cases hf : (s.mpBuckets i).mpFrame with
        | none => simp [Bucket.block, hf] at hframe
        | some f => rfl)
  have hmem : ∀ i, i ∈ s.dueList cfg clk.timeouts ↔
      (r.mpBuckets i).mActive = true ∧ (r.mpBuckets i).due cfg clk.timeouts = true := by
    intro i
    rw [← halike.dueList_eq, h.mem_dueList]
  refine ⟨⟨fun i => ?_, fun o i => ?_, ?_, ?_⟩, ?_⟩
  · rw [hpass, hbuckets i]
    simp only [hmem i]
    split_ifs
    · rw [Bucket.core_closed, halike.buckets i]
    · rw [halike.buckets i]
  · rw [hpass, hmap o, halike.map]
    simp only [List.mem_map]
    by_cases hdue : ∃ j ∈ s.dueList cfg clk.timeouts, (s.mpBuckets j).mDeliveryOrder = o
    · obtain ⟨j, hj, hjo⟩ := hdue
      have hjo' := (hrep.mapped o j).mpr ⟨(hrep.mem_dueList.mp hj).1, hjo⟩
      rw [if_pos ⟨j, hj, hjo⟩, hjo']
      simp only [reduceCtorEq, Option.some.injEq, false_iff, not_and]
      rintro rfl
      simp [((hmem j).mp hj).2]
    · rw [if_neg hdue]
      refine ⟨fun hget => ⟨hget, ?_⟩, And.left⟩
      obtain ⟨hact, hio⟩ := (hrep.mapped o i).mp hget
      by_contra hne
      have hact' : (r.mpBuckets i).mActive = true :=
        (halike.bucket_eq Bucket.mActive (fun _ => rfl) i).trans hact
      exact hdue ⟨i, (hmem i).mpr ⟨hact', by simpa using hne⟩, hio⟩
  · rw [hpass]
    exact hstreams.trans halike.streams.symm
  · rw [hpass]
    exact hno.trans halike.frameNo.symm
  · rw [hpass, deliveries_append, deliveries_nacks, deliveries_delivers, hout, List.nil_append,
      ← halike.dueList_eq]
    exact List.map_congr_left fun i _ => by
      rw [halike.bucket_eq Bucket.delivered (fun _ => rfl) i]

theorem Passed.mDeliveryOrder {cfg : ReceiverConfig} {now : ℤ} {r r' : Receiver B}
    (h : Passed cfg now r r') (i : B.Index) :
    (r'.mpBuckets i).mDeliveryOrder = (r.mpBuckets i).mDeliveryOrder := by
  rw [← Bucket.core_mDeliveryOrder, h.buckets i]
  split_ifs <;> rfl

theorem Represented.passed_represented {r r' : Receiver B} (h : r.Represented)
    {cfg : ReceiverConfig} {now : ℤ} (hpass : Passed cfg now r r') : r'.Represented := by
  have hact : ∀ i, (r'.mpBuckets i).mActive = true ↔
      (r.mpBuckets i).mActive = true ∧ (r.mpBuckets i).due cfg now = false := by
    intro i
    rw [← Bucket.core_mActive, hpass.buckets i]
    split_ifs with hdue
    · simp [Bucket.closed, hdue.2]
    · cases hd : (r.mpBuckets i).due cfg now <;> simp_all
  have hkept : ∀ i, (r'.mpBuckets i).mActive = true →
      (r'.mpBuckets i).core = (r.mpBuckets i).core := by
    intro i hi
    rw [hpass.buckets i, if_neg]
    rintro ⟨-, hdue⟩
    rw [((hact i).mp hi).2] at hdue
    cases hdue
  refine ⟨fun o i => ?_, fun i hi => ?_, ?_⟩
  · rw [hpass.map, h.mapped, hact]
    constructor
    · rintro ⟨⟨hi, ho⟩, hdue⟩
      have hi' := (hact i).mpr ⟨hi, hdue⟩
      exact ⟨⟨hi, hdue⟩, by rw [← ho, ← Bucket.core_mDeliveryOrder, hkept i hi',
        Bucket.core_mDeliveryOrder]⟩
    · rintro ⟨⟨hi, hdue⟩, ho⟩
      have hi' := (hact i).mpr ⟨hi, hdue⟩
      exact ⟨⟨hi, by rw [← ho, ← Bucket.core_mDeliveryOrder, ← hkept i hi',
        Bucket.core_mDeliveryOrder]⟩, hdue⟩
  · rw [← Bucket.wellFormed_core, hkept i hi, Bucket.wellFormed_core]
    exact h.wellFormed i ((hact i).mp hi).1
  · rw [hpass.frameNo]
    exact h.congruent

/-! ### Every run -/

theorem represented_dispatch {r : Receiver B} (h : r.Represented) (cfg : ReceiverConfig)
    (env : Surroundings) (aData : List UInt8) (src : UInt8) :
    (r.dispatch cfg env aData src).1.Represented :=
  dispatch_invariant (I := Represented)
    (fun _ now memalign f hr => represented_handle hr cfg now memalign src f)
    (fun _ hr => hr.has hr.congruent ⟨rfl, rfl, rfl, rfl⟩) env aData h

theorem represented_handleType4 {r : Receiver B} (h : r.Represented) (cfg : ReceiverConfig)
    (env : Surroundings) (apData : List UInt8) (src : UInt8) :
    (r.handleType4 cfg env apData src).1.Represented := by
  have hcount : r.countBundle.Represented := h.has h.congruent ⟨rfl, rfl, rfl, rfl⟩
  simp only [handleType4]
  split_ifs
  · exact h
  · exact h
  · exact hcount
  · exact hcount
  · exact bundleLoop_invariant (I := Represented)
      (fun s lI member hs => represented_handle hs cfg (env.nowUs lI) (env.memalign lI) src
        (.type1 member)) apData _ _ 0 _ hcount

theorem represented_step {r : Receiver B} (h : r.Represented) (cfg : ReceiverConfig)
    (c : Call) : ((Receiver.machine B cfg).step r c).1.Represented := by
  cases c with
  | packet env aData src => exact represented_dispatch h cfg env aData src
  | pass clk => exact h.passed_represented (h.passed cfg clk).1

theorem represented_run {r : Receiver B} (h : r.Represented) (cfg : ReceiverConfig)
    (cs : List Call) : ((Receiver.machine B cfg).run r cs).1.Represented :=
  Machine.run_invariant _ (I := Represented) (C := fun _ _ => True)
    (fun _ c hr _ => represented_step hr cfg c) h
    (Machine.along_of_forall _ (fun _ _ _ => trivial) r)

/-- Map, buckets, bitsets and frames agree in every state the receiver can
be brought to. -/
theorem represented_of_reachable (B : BufferSize) (cfg : ReceiverConfig) (es : List Event) :
    let r := ((Receiver.system B cfg).run (Receiver.fresh B) es).1
    ((∀ i, (r.mpBuckets i).mActive = true ↔
        ∀ o, r.mBucketMap[o]? = some i ↔ o = (r.mpBuckets i).mDeliveryOrder) ∧
      ∀ (o : ℤ) (i : B.Index), r.mBucketMap[o]? = some i →
        (r.mpBuckets i).mActive = true ∧ (r.mpBuckets i).mDeliveryOrder = o) ∧
    ∀ i, (r.mpBuckets i).mActive = true →
      ((r.mpBuckets i).mDeliveryOrder ≡ (r.mpBuckets i).mSavedFrameNo.toNat [ZMOD 2 ^ 16] ∧
        B.index (r.mpBuckets i).mSavedFrameNo = i) ∧
      ((r.mpBuckets i).mOfFragmentNo < 8192 ∧
        (∀ k ∈ (r.mpBuckets i).mReceivedFragments, k ≤ (r.mpBuckets i).mOfFragmentNo) ∧
        (r.mpBuckets i).mFragmentCount = (r.mpBuckets i).mReceivedFragments.card ∧
        1 ≤ (r.mpBuckets i).mFragmentCount ∧
        (r.mpBuckets i).mFragmentCount ≤ (r.mpBuckets i).mOfFragmentNo + 1) ∧
      ∃ f blk, (r.mpBuckets i).mpFrame = some f ∧ f.mpData = some blk := by
  intro r
  have hrep : r.Represented := by
    have hrun := represented_run (represented_fresh (B := B)) cfg (es.flatMap fun e => e.calls cfg)
    rw [← Receiver.system_run] at hrun
    exact hrun
  refine ⟨⟨fun i => ⟨fun hact o => ?_, fun hkey => ?_⟩, fun o i => (hrep.mapped o i).mp⟩,
    fun i hact => ?_⟩
  · rw [hrep.mapped]
    exact ⟨fun ho => ho.2.symm, fun ho => ⟨hact, ho.symm⟩⟩
  · exact ((hrep.mapped _ i).mp ((hkey _).mpr rfl)).1
  · have hwf := hrep.wellFormed i hact
    have hcard : (r.mpBuckets i).mReceivedFragments.card ≤ (r.mpBuckets i).mOfFragmentNo + 1 := by
      rw [← Finset.card_range ((r.mpBuckets i).mOfFragmentNo + 1)]
      exact Finset.card_le_card fun k hk =>
        Finset.mem_range.mpr (Nat.lt_succ_of_le (hwf.received_le k hk))
    obtain ⟨blk, hblk⟩ := Option.isSome_iff_exists.mp hwf.frame
    obtain ⟨f, hf, hdata⟩ := Option.bind_eq_some_iff.mp hblk
    exact ⟨⟨hwf.order, hwf.index⟩, ⟨hwf.of_lt, hwf.received_le, hwf.count,
      hwf.count ▸ hwf.nonempty.card_pos, hwf.count ▸ hcard⟩, f, blk, hf, hdata⟩

end Receiver

end ElasticFrame
