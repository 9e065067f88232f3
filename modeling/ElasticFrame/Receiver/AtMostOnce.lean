import ElasticFrame.Receiver.History
import ElasticFrame.Receiver.Unwrapping

/-!
A superframe is delivered at most once.

Every handled fragment carries a label, the true number of its superframe,
which the wire shows modulo `2^16`. The receiver never sees the labels; it
remembers one delivery order for each bucket, and unwraps a number only when
the bucket it selects is not active. As long as consecutive unwrapped numbers
lie within half the range of the wire number, the unwrapped number runs a
constant ahead of the label, so the order remembered for a bucket tells the
label that opened it last; and as long as no fragment comes after one that
reuses its bucket, the labels that open a bucket only grow.
-/

namespace ElasticFrame

open Lib

/-- A receiver with the label of the last unwrapped number and, for each
bucket, the label that opened it last. -/
structure Labelled (B : BufferSize) where
  receiver : Receiver B
  last : Option ℤ
  opened : B.Index → Option ℤ

namespace Labelled

variable {B : BufferSize}

def fresh (B : BufferSize) : Labelled B :=
  { receiver := Receiver.fresh B, last := none, opened := fun _ => none }

def verdict (t : Labelled B) (src : UInt8) (f : Fragment) : Verdict :=
  f.verdict src (t.receiver.bucketOf f.superFrameNo) (t.receiver.unwrapped f.superFrameNo)

/-- The step calls `recalculateSuperFrameNo`. -/
def Unwraps (t : Labelled B) : Act → Prop
  | .handle _ _ src f => (t.verdict src f).unwraps = true
  | _ => False

/-- The step opens a bucket, whether or not there is memory for the frame. -/
def Opens (t : Labelled B) : Act → Prop
  | .handle _ _ src f => t.verdict src f = .open
  | _ => False

/-- The machine of single steps that puts out each frame with the label that
opened its bucket. -/
def machine (B : BufferSize) (cfg : ReceiverConfig) :
    Machine (Labelled B) (ℤ × Act) (Delivery B × Option ℤ) where
  step t
    | (l, .handle now memalign src f) =>
        ({ receiver := (t.receiver.handle cfg now memalign src f).1
           last := if (t.verdict src f).unwraps then some l else t.last
           opened :=
            if t.verdict src f = .open then
              Function.update t.opened (B.index f.superFrameNo) (some l)
            else t.opened }, [])
    | (_, .bundle) => ({ t with receiver := t.receiver.countBundle }, [])
    | (_, .pass clk) =>
        ({ t with receiver := (t.receiver.processTimeouts cfg clk).1 },
          (Receiver.deliveries (t.receiver.processTimeouts cfg clk).2).map
            fun d => (d, t.opened d.bucket))

theorem run_receiver (cfg : ReceiverConfig) (t : Labelled B) (as : List (ℤ × Act)) :
    ((machine B cfg).run t as).1.receiver =
        ((Receiver.fine B cfg).run t.receiver (as.map Prod.snd)).1 ∧
      ((machine B cfg).run t as).2.map Prod.fst =
        Receiver.deliveries ((Receiver.fine B cfg).run t.receiver (as.map Prod.snd)).2 := by
  induction as generalizing t with
  | nil => exact ⟨rfl, rfl⟩
  | cons e as ih =>
      obtain ⟨l, a⟩ := e
      obtain ⟨hend, hout⟩ := ih ((machine B cfg).step t (l, a)).1
      have hstep : ((machine B cfg).step t (l, a)).1.receiver =
            ((Receiver.fine B cfg).step t.receiver a).1 ∧
          ((machine B cfg).step t (l, a)).2.map Prod.fst =
            Receiver.deliveries ((Receiver.fine B cfg).step t.receiver a).2 := by
        cases a with
        | handle now memalign src f => exact ⟨rfl, rfl⟩
        | bundle => exact ⟨rfl, rfl⟩
        | pass clk =>
            refine ⟨rfl, ?_⟩
            simp only [machine, List.map_map]
            exact List.map_id _
      rw [List.map_cons, Machine.run_cons, Machine.run_cons, ← hstep.1]
      refine ⟨hend, ?_⟩
      rw [List.map_append, hstep.2, hout, Receiver.deliveries, Receiver.deliveries,
        Receiver.deliveries, List.filterMap_append]

end Labelled

/-! ### What a step does to the delivery orders -/

namespace Receiver

variable {B : BufferSize}

/-- A step that does not unwrap a number changes no delivery order and no
activity. -/
theorem handle_of_not_unwraps (cfg : ReceiverConfig) (r : Receiver B) (now : ℤ)
    (memalign : Bool) (src : UInt8) (f : Fragment)
    (h : (f.verdict src (r.bucketOf f.superFrameNo)
      (r.unwrapped f.superFrameNo)).unwraps = false) :
    (r.handle cfg now memalign src f).1.frameNo = r.frameNo ∧
      ∀ i, ((r.handle cfg now memalign src f).1.mpBuckets i).mDeliveryOrder =
          (r.mpBuckets i).mDeliveryOrder ∧
        ((r.handle cfg now memalign src f).1.mpBuckets i).mActive =
          (r.mpBuckets i).mActive := by
  refine ⟨by rw [handle_frameNo, h]; rfl, fun i => ?_⟩
  rw [handle_mpBuckets]
  by_cases hi : i = B.index f.superFrameNo
  · subst hi
    rw [Function.update_self]
    cases hv : f.verdict src (r.bucketOf f.superFrameNo) (r.unwrapped f.superFrameNo) with
    | short => exact ⟨rfl, rfl⟩
    | reject res => exact ⟨rfl, rfl⟩
    | duplicate => exact ⟨rfl, rfl⟩
    | stale res => exact ⟨rfl, rfl⟩
    | «open» => rw [hv] at h; cases h
    | fill =>
        obtain ⟨hact, -, horder, -⟩ := (r.bucketOf f.superFrameNo).fill_fields f
        exact ⟨horder, hact⟩
  · rw [Function.update_of_ne hi]
    exact ⟨rfl, rfl⟩

theorem handle_of_stale (cfg : ReceiverConfig) (r : Receiver B) (now : ℤ)
    (memalign : Bool) (src : UInt8) (f : Fragment) {res : Result}
    (h : f.verdict src (r.bucketOf f.superFrameNo) (r.unwrapped f.superFrameNo) = .stale res) :
    (r.handle cfg now memalign src f).1.frameNo =
        r.frameNo.recalculateSuperFrameNo f.superFrameNo ∧
      (r.handle cfg now memalign src f).1.mpBuckets = r.mpBuckets := by
  rw [handle_frameNo, handle_mpBuckets, h]
  exact ⟨rfl, Function.update_eq_self _ _⟩

/-- An opener gives its bucket the unwrapped order, and touches no other
bucket. -/
theorem handle_of_open (cfg : ReceiverConfig) (r : Receiver B) (now : ℤ)
    (memalign : Bool) (src : UInt8) (f : Fragment)
    (h : f.verdict src (r.bucketOf f.superFrameNo) (r.unwrapped f.superFrameNo) = .open) :
    (r.handle cfg now memalign src f).1.frameNo =
        r.frameNo.recalculateSuperFrameNo f.superFrameNo ∧
      ((r.handle cfg now memalign src f).1.mpBuckets (B.index f.superFrameNo)).mDeliveryOrder =
        r.unwrapped f.superFrameNo ∧
      ∀ i, i ≠ B.index f.superFrameNo →
        (r.handle cfg now memalign src f).1.mpBuckets i = r.mpBuckets i := by
  rw [handle_frameNo, handle_mpBuckets, h, Function.update_self]
  refine ⟨rfl, ?_, fun i hi => Function.update_of_ne hi _ _⟩
  rw [Bucket.after]
  split_ifs <;> rfl

end Receiver

def Act.IsHandle : Act → Prop
  | .handle .. => True
  | _ => False

/-- The label the step adds to those that have been handled. -/
def Act.labels (l : ℤ) : Act → List ℤ
  | .handle .. => [l]
  | _ => []

/-- Superframe `x` reuses the bucket of the earlier superframe `l`. -/
def BufferSize.Overtakes (B : BufferSize) (x l : ℤ) : Prop :=
  ∃ k : ℕ, 1 ≤ k ∧ x = l + k * (B.mask + 1 : ℕ)

namespace Labelled

variable {B : BufferSize}

/-- The label of a fragment and the position of its bucket agree modulo the
number of buckets. -/
theorem index_modEq {n : UInt16} {l : ℤ} (h : (n.toNat : ℤ) ≡ l [ZMOD 2 ^ 16]) :
    ((B.index n).val : ℤ) ≡ l [ZMOD (B.mask + 1 : ℕ)] := by
  rw [B.val_index, Int.natCast_mod]
  have hdvd : ((B.mask + 1 : ℕ) : ℤ) ∣ 2 ^ 16 := Int.natCast_dvd_natCast.mpr B.dvd
  exact (Int.mod_modEq _ _).trans (h.of_dvd hdvd)

/-- Two positions with one label modulo the number of buckets are the same. -/
theorem index_unique {i j : B.Index} {l l' : ℤ}
    (hi : (i.val : ℤ) ≡ l [ZMOD (B.mask + 1 : ℕ)]) (hj : (j.val : ℤ) ≡ l' [ZMOD (B.mask + 1 : ℕ)])
    (hll : l ≡ l' [ZMOD (B.mask + 1 : ℕ)]) : i = j := by
  have hij : i.val ≡ j.val [MOD B.mask + 1] :=
    Int.natCast_modEq_iff.mp ((hi.trans hll).trans hj.symm)
  exact Fin.ext (Nat.ModEq.eq_of_lt_of_lt hij i.isLt j.isLt)

/-- A label that may still be handled after `L`, and shares its bucket, is
not below it. -/
theorem le_of_notReused {L l : ℤ} (hmod : L ≡ l [ZMOD (B.mask + 1 : ℕ)])
    (hreuse : ¬ B.Overtakes L l) : L ≤ l := by
  by_contra hlt
  obtain ⟨m, hm⟩ := hmod.symm.dvd
  have hpos : (0 : ℤ) < (B.mask + 1 : ℕ) := by exact_mod_cast Nat.succ_pos _
  have hm1 : 0 < m := by
    by_contra hneg
    have : ((B.mask + 1 : ℕ) : ℤ) * m ≤ 0 :=
      mul_nonpos_of_nonneg_of_nonpos (le_of_lt hpos) (not_lt.mp hneg)
    omega
  refine hreuse ⟨m.toNat, by omega, ?_⟩
  rw [Int.toNat_of_nonneg (le_of_lt hm1)]
  linarith

/-- What ties the labels to the receiver, once the labels `past` have been
handled and the labels `done` delivered. -/
structure Inv (t : Labelled B) (c : ℤ) (past done : List ℤ) : Prop where
  represented : t.receiver.Represented
  tracks : t.receiver.frameNo.Tracks c t.last
  unopened : t.last = none → ∀ i, t.opened i = none
  inactive : ∀ i, t.opened i = none → (t.receiver.mpBuckets i).mActive = false
  order : ∀ i L, t.opened i = some L → (t.receiver.mpBuckets i).mDeliveryOrder = L + c
  position : ∀ i L, t.opened i = some L → (i.val : ℤ) ≡ L [ZMOD (B.mask + 1 : ℕ)]
  handled : ∀ i L, t.opened i = some L → L ∈ past
  delivered : ∀ s ∈ done, ∃ i L, t.opened i = some L ∧ s ≤ L ∧
    s ≡ L [ZMOD (B.mask + 1 : ℕ)] ∧ ((t.receiver.mpBuckets i).mActive = true → s ≠ L)
  nodup : done.Nodup

theorem inv_fresh : (fresh B).Inv 0 [] [] where
  represented := Receiver.represented_fresh
  tracks := rfl
  unopened _ _ := rfl
  inactive _ _ := rfl
  order i L h := by cases h
  position i L h := by cases h
  handled i L h := by cases h
  delivered s hs := by cases hs
  nodup := List.nodup_nil

/-- A fragment of a label that shares its bucket with no later one. -/
theorem Inv.handle {t : Labelled B} {c : ℤ} {past done : List ℤ}
    (h : t.Inv c past done) (cfg : ReceiverConfig) (l now : ℤ) (memalign : Bool)
    (src : UInt8) (f : Fragment) (htrue : (f.superFrameNo.toNat : ℤ) ≡ l [ZMOD 2 ^ 16])
    (hnear : (t.verdict src f).unwraps = true → ∀ x, t.last = some x → |l - x| < 2 ^ 15)
    (hreuse : ∀ x ∈ past, ¬ B.Overtakes x l) :
    (∃ c', ((machine B cfg).step t (l, .handle now memalign src f)).1.Inv c' (l :: past)
      done) ∧ (t.verdict src f = .open → l ∉ done) := by
  have hrep := Receiver.represented_handle h.represented cfg now memalign src f
  cases hv : (t.verdict src f).unwraps with
  | false =>
      have hne : t.verdict src f ≠ .open := by
        intro hopen
        rw [hopen] at hv
        cases hv
      obtain ⟨hno, hsame⟩ := t.receiver.handle_of_not_unwraps cfg now memalign src f hv
      refine ⟨⟨c, ?_⟩, fun hopen => absurd hopen hne⟩
      simp only [machine, hv, Bool.false_eq_true, if_false, if_neg hne]
      exact ⟨hrep, hno ▸ h.tracks, h.unopened, fun i hi => (hsame i).2.trans (h.inactive i hi),
        fun i L hL => (hsame i).1.trans (h.order i L hL), h.position,
        fun i L hL => List.mem_cons_of_mem _ (h.handled i L hL),
        fun s hs => by
          obtain ⟨i, L, hL, hle, hmod, hact⟩ := h.delivered s hs
          exact ⟨i, L, hL, hle, hmod, fun ha => hact ((hsame i).2 ▸ ha)⟩, h.nodup⟩
  | true =>
      obtain ⟨c', htracks, hunwrapped, hc⟩ := h.tracks.recalculate htrue (hnear hv)
      have horder : ∀ i L, t.opened i = some L →
          (t.receiver.mpBuckets i).mDeliveryOrder = L + c' := by
        intro i L hL
        cases hlast : t.last with
        | none => rw [h.unopened hlast i] at hL; cases hL
        | some x => rw [hc x hlast, h.order i L hL]
      by_cases hopen : t.verdict src f = .open
      · obtain ⟨hno, hnew, hother⟩ := t.receiver.handle_of_open cfg now memalign src f hopen
        obtain ⟨-, -, hinactive, hne, -⟩ := Fragment.verdict_open hopen
        -- the labels that open a bucket grow
        have hgrow : ∀ L, t.opened (B.index f.superFrameNo) = some L → L < l := by
          intro L hL
          have hmod : L ≡ l [ZMOD (B.mask + 1 : ℕ)] :=
            (h.position _ L hL).symm.trans (index_modEq htrue)
          have hle := le_of_notReused hmod (hreuse L (h.handled _ L hL))
          refine lt_of_le_of_ne hle fun heq => hne ?_
          exact hunwrapped.trans (heq ▸ (horder _ L hL).symm)
        refine ⟨⟨c', ?_⟩, fun _ hmem => ?_⟩
        · simp only [machine, hv, if_true, if_pos hopen]
          refine ⟨hrep, by rw [hno]; exact htracks, fun hnone => (by cases hnone), ?_, ?_, ?_, ?_,
            ?_, h.nodup⟩ <;> dsimp only
          · intro i hi
            by_cases hii : i = B.index f.superFrameNo
            · rw [hii, Function.update_self] at hi
              cases hi
            · rw [Function.update_of_ne hii] at hi
              rw [hother i hii]
              exact h.inactive i hi
          · intro i L hL
            by_cases hii : i = B.index f.superFrameNo
            · rw [hii, Function.update_self] at hL
              obtain rfl := Option.some.inj hL
              rw [hii, hnew]
              exact hunwrapped
            · rw [Function.update_of_ne hii] at hL
              rw [hother i hii]
              exact horder i L hL
          · intro i L hL
            by_cases hii : i = B.index f.superFrameNo
            · rw [hii, Function.update_self] at hL
              obtain rfl := Option.some.inj hL
              rw [hii]
              exact index_modEq htrue
            · rw [Function.update_of_ne hii] at hL
              exact h.position i L hL
          · intro i L hL
            by_cases hii : i = B.index f.superFrameNo
            · rw [hii, Function.update_self] at hL
              obtain rfl := Option.some.inj hL
              exact List.mem_cons_self
            · rw [Function.update_of_ne hii] at hL
              exact List.mem_cons_of_mem _ (h.handled i L hL)
          · intro s hs
            obtain ⟨i, L, hL, hle, hmod, hact⟩ := h.delivered s hs
            by_cases hii : i = B.index f.superFrameNo
            · have hlt := hgrow L (hii ▸ hL)
              refine ⟨i, l, by rw [hii, Function.update_self], by omega, ?_, fun _ => by omega⟩
              exact hmod.trans ((h.position i L hL).symm.trans (hii ▸ index_modEq htrue))
            · refine ⟨i, L, by rw [Function.update_of_ne hii]; exact hL, hle, hmod, ?_⟩
              rw [hother i hii]
              exact hact
        · obtain ⟨i, L, hL, hle, hmod, -⟩ := h.delivered l hmem
          have hii : i = B.index f.superFrameNo :=
            index_unique (h.position i L hL) (index_modEq htrue) hmod.symm
          have hlt := hgrow L (hii ▸ hL)
          omega
      · obtain ⟨res, hstale⟩ := Verdict.stale_of_unwraps hv hopen
        obtain ⟨hno, hsame⟩ := t.receiver.handle_of_stale cfg now memalign src f hstale
        refine ⟨⟨c', ?_⟩, fun habs => absurd habs hopen⟩
        simp only [machine, hv, if_true, if_neg hopen]
        refine ⟨hrep, by rw [hno]; exact htracks, fun hnone => (by cases hnone), ?_, ?_,
          h.position, fun i L hL => List.mem_cons_of_mem _ (h.handled i L hL), ?_, h.nodup⟩
        · rw [hsame]
          exact h.inactive
        · rw [hsame]
          exact horder
        · rw [hsame]
          exact h.delivered

/-- A pass delivers labels that are new and differ from each other. -/
theorem Inv.pass {t : Labelled B} {c : ℤ} {past done : List ℤ}
    (h : t.Inv c past done) (cfg : ReceiverConfig) (l : ℤ) (clk : PassClock) :
    ∃ labels : List ℤ,
      ((machine B cfg).step t (l, .pass clk)).2.map Prod.snd = labels.map some ∧
        ((machine B cfg).step t (l, .pass clk)).1.Inv c past (done ++ labels) := by
  obtain ⟨hpass, hout⟩ := h.represented.passed cfg clk
  set due := t.receiver.dueList cfg clk.timeouts with hdue
  have hopened : ∀ i ∈ due, t.opened i = some ((t.opened i).getD 0) := by
    intro i hi
    have hact := (h.represented.mem_dueList.mp hi).1
    cases hL : t.opened i with
    | none => rw [h.inactive i hL] at hact; cases hact
    | some L => rfl
  have hactive : ∀ i, ((t.receiver.processTimeouts cfg clk).1.mpBuckets i).mActive = true →
      (t.receiver.mpBuckets i).mActive = true ∧ i ∉ due := by
    intro i hi
    rw [← Bucket.core_mActive, hpass.buckets i] at hi
    split_ifs at hi with hcase
    · simp [Bucket.closed] at hi
    · refine ⟨hi, fun hmem => hcase (h.represented.mem_dueList.mp hmem)⟩
  refine ⟨due.map fun i => (t.opened i).getD 0, ?_, ?_⟩
  · simp only [machine, hout, List.map_map]
    exact List.map_congr_left fun i hi => hopened i hi
  · refine ⟨h.represented.passed_represented hpass, ?_, h.unopened, fun i hi => ?_,
      fun i L hL => (hpass.mDeliveryOrder i).trans (h.order i L hL), h.position, h.handled,
      fun s hs => ?_, ?_⟩
    · change FrameNoTracking.Tracks (t.receiver.processTimeouts cfg clk).1.frameNo c t.last
      rw [hpass.frameNo]
      exact h.tracks
    · by_contra hne
      have hact := (hactive i (Bool.eq_true_of_not_eq_false hne)).1
      rw [h.inactive i hi] at hact
      cases hact
    · rcases List.mem_append.mp hs with hold | hnew
      · obtain ⟨i, L, hL, hle, hmod, hact⟩ := h.delivered s hold
        exact ⟨i, L, hL, hle, hmod, fun ha => hact (hactive i ha).1⟩
      · obtain ⟨i, hi, rfl⟩ := List.mem_map.mp hnew
        exact ⟨i, _, hopened i hi, le_refl _, Int.ModEq.refl _,
          fun ha => absurd hi (hactive i ha).2⟩
    · rw [List.nodup_append]
      refine ⟨h.nodup, ?_, fun s hs s' hs' heq => ?_⟩
      · refine (h.represented.nodup_dueList cfg clk.timeouts).map_on fun i hi j hj hij => ?_
        exact index_unique (h.position i _ (hopened i hi)) (h.position j _ (hopened j hj))
          (hij ▸ Int.ModEq.refl _)
      · obtain ⟨i, hi, rfl⟩ := List.mem_map.mp hs'
        obtain ⟨j, L, hL, -, hmod, hact⟩ := h.delivered s hs
        rw [heq] at hmod hact
        have hji : j = i := index_unique (h.position j L hL) (h.position i _ (hopened i hi))
          hmod.symm
        subst hji
        rw [hL] at hact
        exact hact (h.represented.mem_dueList.mp hi).1 rfl

theorem Inv.run {t : Labelled B} {c : ℤ} {past done : List ℤ}
    (h : t.Inv c past done) (cfg : ReceiverConfig) (as : List (ℤ × Act))
    (htrue : ∀ l now memalign src f, (l, Act.handle now memalign src f) ∈ as →
      (f.superFrameNo.toNat : ℤ) ≡ l [ZMOD 2 ^ 16])
    (hnear : (machine B cfg).Along
      (fun t e => t.Unwraps e.2 → ∀ x, t.last = some x → |e.1 - x| < 2 ^ 15) t as)
    (hpast : ∀ e ∈ as, e.2.IsHandle → ∀ x ∈ past, ¬ B.Overtakes x e.1)
    (hreuse : as.Pairwise fun e e' =>
      e.2.IsHandle → e'.2.IsHandle → ¬ B.Overtakes e.1 e'.1) :
    (∃ labels : List ℤ, ((machine B cfg).run t as).2.map Prod.snd = labels.map some ∧
      (done ++ labels).Nodup) ∧
    ∀ before e after, as = before ++ e :: after →
      ((machine B cfg).run t before).1.Opens e.2 →
        e.1 ∉ done ∧ some e.1 ∉ ((machine B cfg).run t before).2.map Prod.snd := by
  induction as generalizing t c past done with
  | nil =>
      refine ⟨⟨[], rfl, by simpa using h.nodup⟩, fun before e after hsplit => ?_⟩
      exact absurd hsplit (by simp)
  | cons e as ih =>
      obtain ⟨l, a⟩ := e
      obtain ⟨hhead, htail⟩ := List.pairwise_cons.mp hreuse
      -- what the step does, and the invariant it leaves
      have hstep : ∃ c' labels, ((machine B cfg).step t (l, a)).2.map Prod.snd =
            labels.map some ∧
          ((machine B cfg).step t (l, a)).1.Inv c' (a.labels l ++ past)
            (done ++ labels) ∧ (t.Opens a → l ∉ done) := by
        cases a with
        | handle now memalign src f =>
            obtain ⟨⟨c', hinv⟩, hopen⟩ := h.handle cfg l now memalign src f
              (htrue l now memalign src f (by simp)) hnear.1
              (hpast (l, .handle now memalign src f) (by simp) trivial)
            exact ⟨c', [], rfl, by rw [List.append_nil]; exact hinv, hopen⟩
        | bundle =>
            refine ⟨c, [], rfl, ?_, fun habs => absurd habs id⟩
            rw [List.append_nil]
            exact ⟨Receiver.represented_fine_step h.represented cfg .bundle, h.tracks, h.unopened,
              h.inactive, h.order, h.position, h.handled, h.delivered, h.nodup⟩
        | pass clk =>
            obtain ⟨labels, hout, hinv⟩ := h.pass cfg l clk
            exact ⟨c, labels, hout, hinv, fun habs => absurd habs id⟩
      obtain ⟨c', labels, hout, hinv, hopen⟩ := hstep
      obtain ⟨⟨rest, hrest, hnodup⟩, hlater⟩ := ih hinv
        (fun l' now memalign src f hmem => htrue l' now memalign src f (by simp [hmem])) hnear.2
        (fun e' he' hhandle x hx => by
          rcases List.mem_append.mp hx with hx | hx
          · cases a with
            | handle now memalign src f =>
                rw [List.mem_singleton.mp hx]
                exact hhead e' he' trivial hhandle
            | bundle => cases hx
            | pass clk => cases hx
          · exact hpast e' (by simp [he']) hhandle x hx) htail
      refine ⟨⟨labels ++ rest, ?_, by rw [← List.append_assoc]; exact hnodup⟩,
        fun before e' after hsplit hopens => ?_⟩
      · rw [Machine.run_cons, List.map_append, hout, hrest, List.map_append]
      · cases before with
        | nil =>
            obtain ⟨rfl, -⟩ := List.cons.inj hsplit
            exact ⟨hopen hopens, by simp⟩
        | cons x before =>
            obtain ⟨rfl, htail'⟩ := List.cons.inj hsplit
            obtain ⟨hnot, hnone⟩ := hlater before e' after htail' hopens
            rw [List.mem_append, not_or] at hnot
            refine ⟨hnot.1, ?_⟩
            rw [Machine.run_cons, List.map_append, List.mem_append, hout]
            rintro (hmem | hmem)
            · obtain ⟨s, hs, heq⟩ := List.mem_map.mp hmem
              obtain rfl := Option.some.inj heq
              exact hnot.2 hs
            · exact hnone hmem

/-- In a run whose fragments are labelled with the true numbers of their
superframes, every delivered frame has a label, no two have the same, and no
fragment opens a bucket again after the delivery of its superframe. -/
theorem delivered_once (B : BufferSize) (cfg : ReceiverConfig) (es : List Event)
    (as : List (ℤ × Act)) (hacts : as.map Prod.snd = Receiver.actsOf B cfg es)
    (htrue : ∀ l now memalign src f, (l, Act.handle now memalign src f) ∈ as →
      (f.superFrameNo.toNat : ℤ) ≡ l [ZMOD 2 ^ 16])
    (hnear : (machine B cfg).Along
      (fun t e => t.Unwraps e.2 → ∀ x, t.last = some x → |e.1 - x| < 2 ^ 15) (fresh B) as)
    (hreuse : as.Pairwise fun e e' =>
      e.2.IsHandle → e'.2.IsHandle → ¬ B.Overtakes e.1 e'.1) :
    ((machine B cfg).run (fresh B) as).2.map Prod.fst =
        Receiver.deliveries ((Receiver.system B cfg).run (Receiver.fresh B) es).2 ∧
      (∃ labels : List ℤ, ((machine B cfg).run (fresh B) as).2.map Prod.snd = labels.map some ∧
        labels.Nodup) ∧
      ∀ before e after, as = before ++ e :: after →
        ((machine B cfg).run (fresh B) before).1.Opens e.2 →
          some e.1 ∉ ((machine B cfg).run (fresh B) before).2.map Prod.snd := by
  obtain ⟨hlabels, hopens⟩ := (inv_fresh (B := B)).run cfg as htrue hnear
    (fun _ _ _ x hx => by cases hx) hreuse
  refine ⟨?_, hlabels, fun before e after hsplit hopen => (hopens before e after hsplit hopen).2⟩
  rw [Receiver.run_actsOf, ← hacts]
  exact (run_receiver cfg (fresh B) as).2

/-- A superframe of one packet that arrives again after its delivery. -/
def lateCopyRun : List Event :=
  [.receive Sample.env Sample.clk (Sample.type1 0 [7]) 0, .worker Sample.clk,
    .receive Sample.env Sample.clk (Sample.type1 0 [7]) 0, .worker Sample.clk]

def lateCopyActs : List (ℤ × Act) :=
  [(0, .handle 0 true 0 (.type1 (Sample.type1 0 [7]))), (0, .pass Sample.clk),
    (0, .handle 0 true 0 (.type1 (Sample.type1 0 [7]))), (0, .pass Sample.clk)]

theorem delivered_once_lateCopyRun :
    ((machine .default {}).run (fresh .default) lateCopyActs).2.map Prod.fst =
        Receiver.deliveries
          ((Receiver.system .default {}).run (Receiver.fresh .default) lateCopyRun).2 ∧
      (∃ labels : List ℤ,
        ((machine .default {}).run (fresh .default) lateCopyActs).2.map Prod.snd =
          labels.map some ∧ labels.Nodup) ∧
      ∀ before e after, lateCopyActs = before ++ e :: after →
        ((machine .default {}).run (fresh .default) before).1.Opens e.2 →
          some e.1 ∉ ((machine .default {}).run (fresh .default) before).2.map Prod.snd := by
  refine delivered_once .default {} lateCopyRun lateCopyActs rfl
    (fun l now memalign src f hmem => ?_) ?_ ?_
  · have hcase : l = 0 ∧ f = .type1 (Sample.type1 0 [7]) := by
      simp only [lateCopyActs, List.mem_cons, Prod.mk.injEq, Act.handle.injEq, reduceCtorEq, and_false,
        List.not_mem_nil, or_false, false_or] at hmem
      rcases hmem with ⟨rfl, -, -, -, rfl⟩ | ⟨rfl, -, -, -, rfl⟩ <;> exact ⟨rfl, rfl⟩
    obtain ⟨rfl, rfl⟩ := hcase
    decide
  · refine ⟨fun _ x hx => ?_, fun h => absurd h id, fun _ x hx => ?_, fun h => absurd h id, trivial⟩
    · cases hx
    · obtain rfl := Option.some.inj hx
      decide
  · have hzero : ∀ k : ℕ, 1 ≤ k →
        (0 : ℤ) ≠ 0 + k * ((BufferSize.default.mask + 1 : ℕ) : ℤ) := by
      intro k hk heq
      have hmask : BufferSize.default.mask + 1 = 8192 := rfl
      rw [hmask] at heq
      push_cast at heq
      omega
    have hnever : ¬ BufferSize.default.Overtakes 0 0 := fun ⟨k, hk, heq⟩ => hzero k hk heq
    simp [lateCopyActs, hnever]

end Labelled

end ElasticFrame
