import ElasticFrame.Receiver.AtMostOnce

/-!
A superframe that comes after all the others is not taken for an old one. As
long as the unwrapped numbers follow the labels, the orders that the buckets
remember lie below the order of a label that is above all the labels so far.
-/

namespace ElasticFrame

open Lib

/-- The first number is unwrapped to what stands on the wire, which is not
above its label; from then on the two run side by side. -/
theorem FrameNoTracking.Tracks.recalculate_of_nonpos {t : FrameNoTracking} {c : ℤ}
    {last : Option ℤ} (h : t.Tracks c last) (hc : c ≤ 0) {n : UInt16} {l : ℤ} (hl : 0 ≤ l)
    (hn : (n.toNat : ℤ) ≡ l [ZMOD 2 ^ 16]) (hnear : ∀ x, last = some x → |l - x| < 2 ^ 15) :
    ∃ c' ≤ 0, (t.recalculateSuperFrameNo n).Tracks c' (some l) ∧
      (t.recalculateSuperFrameNo n).mFrameNoRecalc = l + c' ∧ (last ≠ none → c' = c) := by
  obtain ⟨c', htracks, hrecalc, hsame⟩ := h.recalculate hn hnear
  cases last with
  | some x =>
      have heq := hsame x rfl
      exact ⟨c', heq.trans_le hc, htracks, hrecalc, fun _ => heq⟩
  | none =>
      refine ⟨c', ?_, htracks, hrecalc, fun hne => absurd rfl hne⟩
      have hfirst : t.mFirstFrame = true := h
      have hwire : (t.recalculateSuperFrameNo n).mFrameNoRecalc = n.toNat := by
        rw [recalculateSuperFrameNo, if_pos hfirst]
      have hle : (n.toNat : ℤ) ≤ l := by
        have hlt := n.toNat_lt
        have hmod : (n.toNat : ℤ) % 2 ^ 16 = l % 2 ^ 16 := hn
        omega
      omega

namespace Receiver

variable {B : BufferSize}

theorem verdict_of_fragmentTooOld (cfg : ReceiverConfig) (r : Receiver B) (now : ℤ)
    (memalign : Bool) (src : UInt8) (f : Fragment)
    (h : (r.handle cfg now memalign src f).2 = .fragmentTooOld) :
    f.verdict src (r.bucketOf f.superFrameNo) (r.unwrapped f.superFrameNo) =
      .stale .fragmentTooOld := by
  rw [handle_eq] at h
  cases hv : f.verdict src (r.bucketOf f.superFrameNo) (r.unwrapped f.superFrameNo) with
  | short =>
      rw [hv] at h
      cases h
  | reject res =>
      rw [hv] at h
      have hcode := Fragment.verdict_reject hv
      obtain rfl : res = .fragmentTooOld := h
      exact absurd hcode (by decide)
  | duplicate =>
      rw [hv] at h
      cases h
  | stale res =>
      rw [hv] at h
      exact congrArg Verdict.stale h
  | «open» =>
      rw [hv] at h
      by_cases halloc : 0 < f.totalSize ∧ memalign = true
      · rw [(r.act_open_of_alloc cfg now memalign src f halloc).1] at h
        cases h
      · rw [(r.act_open_of_not_alloc cfg now memalign src f halloc).1] at h
        cases h
  | fill =>
      rw [hv] at h
      cases h

end Receiver

namespace Labelled

variable {B : BufferSize}

/-- The unwrapped numbers run behind the labels, and the orders that the
buckets remember behind that of label `k`. -/
structure Below (t : Labelled B) (k c : ℤ) : Prop where
  tracks : t.receiver.frameNo.Tracks c t.last
  nonpos : c ≤ 0
  order : ∀ i, (t.receiver.mpBuckets i).mDeliveryOrder = int64Max ∨
    t.last ≠ none ∧ (t.receiver.mpBuckets i).mDeliveryOrder < k + c

theorem below_fresh (k : ℤ) : (fresh B).Below k 0 := ⟨rfl, le_refl 0, fun _ => .inl rfl⟩

theorem Below.handle {t : Labelled B} {k c : ℤ} (h : t.Below k c) (cfg : ReceiverConfig)
    {l : ℤ} (hl : 0 ≤ l) (hlk : l < k) (now : ℤ) (memalign : Bool) (src : UInt8) (f : Fragment)
    (htrue : (f.superFrameNo.toNat : ℤ) ≡ l [ZMOD 2 ^ 16])
    (hnear : (t.verdict src f).unwraps = true → ∀ x, t.last = some x → |l - x| < 2 ^ 15) :
    ∃ c', ((machine B cfg).step t (l, .handle now memalign src f)).1.Below k c' := by
  cases hv : (t.verdict src f).unwraps with
  | false =>
      obtain ⟨hno, hsame⟩ := t.receiver.handle_of_not_unwraps cfg now memalign src f hv
      refine ⟨c, ?_⟩
      simp only [machine, hv, Bool.false_eq_true, if_false]
      refine ⟨hno ▸ h.tracks, h.nonpos, fun i => ?_⟩
      rw [(hsame i).1]
      exact h.order i
  | true =>
      obtain ⟨c', hc', htracks, hunwrapped, hsame⟩ :=
        h.tracks.recalculate_of_nonpos h.nonpos hl htrue (hnear hv)
      -- what a bucket remembers already stays below
      have horder : ∀ i, (t.receiver.mpBuckets i).mDeliveryOrder = int64Max ∨
          (t.receiver.mpBuckets i).mDeliveryOrder < k + c' := by
        intro i
        rcases h.order i with hmax | ⟨hlast, hlt⟩
        · exact .inl hmax
        · rw [hsame hlast]
          exact .inr hlt
      refine ⟨c', ?_⟩
      simp only [machine, hv, if_true]
      by_cases hopen : t.verdict src f = .open
      · obtain ⟨hno, hnew, hother⟩ := t.receiver.handle_of_open cfg now memalign src f hopen
        refine ⟨by rw [hno]; exact htracks, hc', fun i => ?_⟩
        dsimp only
        by_cases hi : i = B.index f.superFrameNo
        · rw [hi, hnew]
          refine .inr ⟨Option.some_ne_none l, hunwrapped.trans_lt ?_⟩
          omega
        · rw [hother i hi]
          exact (horder i).imp_right fun hlt => ⟨Option.some_ne_none l, hlt⟩
      · obtain ⟨res, hstale⟩ := Verdict.stale_of_unwraps hv hopen
        obtain ⟨hno, hbuckets⟩ := t.receiver.handle_of_stale cfg now memalign src f hstale
        refine ⟨by rw [hno]; exact htracks, hc', fun i => ?_⟩
        dsimp only
        rw [hbuckets]
        exact (horder i).imp_right fun hlt => ⟨Option.some_ne_none l, hlt⟩

theorem Below.pass {t : Labelled B} {k c : ℤ} (h : t.Below k c) (hrep : t.receiver.Represented)
    (cfg : ReceiverConfig) (l : ℤ) (clk : PassClock) :
    ((machine B cfg).step t (l, .pass clk)).1.Below k c := by
  obtain ⟨hpass, -⟩ := hrep.passed cfg clk
  refine ⟨?_, h.nonpos, fun i => ?_⟩
  · change FrameNoTracking.Tracks (t.receiver.processTimeouts cfg clk).1.frameNo c t.last
    rw [hpass.frameNo]
    exact h.tracks
  · change ((t.receiver.processTimeouts cfg clk).1.mpBuckets i).mDeliveryOrder = int64Max ∨
      t.last ≠ none ∧ ((t.receiver.processTimeouts cfg clk).1.mpBuckets i).mDeliveryOrder < k + c
    rw [hpass.mDeliveryOrder]
    exact h.order i

theorem Below.run {t : Labelled B} {k c : ℤ} (h : t.Below k c) (hrep : t.receiver.Represented)
    (cfg : ReceiverConfig) {as : List (ℤ × Act)}
    (htrue : ∀ l now memalign src f, (l, Act.handle now memalign src f) ∈ as →
      0 ≤ l ∧ l < k ∧ (f.superFrameNo.toNat : ℤ) ≡ l [ZMOD 2 ^ 16])
    (hnear : (machine B cfg).Along
      (fun t e => t.Unwraps e.2 → ∀ x, t.last = some x → |e.1 - x| < 2 ^ 15) t as) :
    ∃ c', ((machine B cfg).run t as).1.Below k c' := by
  induction as generalizing t c with
  | nil => exact ⟨c, h⟩
  | cons e as ih =>
      obtain ⟨l, a⟩ := e
      have hstep : ((machine B cfg).step t (l, a)).1.receiver.Represented ∧
          ∃ c', ((machine B cfg).step t (l, a)).1.Below k c' := by
        cases a with
        | handle now memalign src f =>
            obtain ⟨hl, hlk, hmod⟩ := htrue l now memalign src f List.mem_cons_self
            exact ⟨Receiver.represented_handle hrep cfg now memalign src f,
              h.handle cfg hl hlk now memalign src f hmod hnear.1⟩
        | bundle =>
            exact ⟨Receiver.represented_fine_step hrep cfg .bundle, c, h.tracks, h.nonpos,
              h.order⟩
        | pass clk =>
            exact ⟨hrep.passed_represented (hrep.passed cfg clk).1, c, h.pass hrep cfg l clk⟩
      obtain ⟨hrep', c', h'⟩ := hstep
      exact ih h' hrep'
        (fun l' now memalign src f hmem =>
          htrue l' now memalign src f (List.mem_cons_of_mem _ hmem)) hnear.2

theorem Below.verdict_ne {t : Labelled B} {k c : ℤ} (h : t.Below k c) (hk : 0 ≤ k)
    (hmax : k < int64Max) (src : UInt8) (f : Fragment)
    (htrue : (f.superFrameNo.toNat : ℤ) ≡ k [ZMOD 2 ^ 16])
    (hnear : ∀ x, t.last = some x → |k - x| < 2 ^ 15) :
    t.verdict src f ≠ .stale .fragmentTooOld := by
  intro hstale
  obtain ⟨c', hc', -, hunwrapped, hsame⟩ :=
    h.tracks.recalculate_of_nonpos h.nonpos hk htrue hnear
  have hremembered : t.receiver.unwrapped f.superFrameNo =
      (t.receiver.bucketOf f.superFrameNo).mDeliveryOrder := by
    rcases (Fragment.verdict_stale hstale).2.2 with ⟨heq, -⟩ | ⟨-, -, hres⟩
    · exact heq
    · cases hres
  have horder := h.order (B.index f.superFrameNo)
  rw [← Receiver.bucketOf, ← hremembered] at horder
  have heq : t.receiver.unwrapped f.superFrameNo = k + c' := hunwrapped
  rcases horder with hmax' | ⟨hlast, hlt⟩
  · omega
  · have hc := hsame hlast
    omega

end Labelled

end ElasticFrame
