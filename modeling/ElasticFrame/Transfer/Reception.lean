import ElasticFrame.Transfer.Collection
import ElasticFrame.Receiver.Representation
import ElasticFrame.Lib.Lists

/-!
A receiver over the whole of a transfer. As long as no pass finds the bucket
expired, the frame of the superframe is delivered once, by the first pass that
finds all fragments there.
-/

namespace ElasticFrame

open Lib

/-! ### What a pass delivers of one number -/

/-- The bucket has timed out, or is past the head-of-line deadline. -/
def Bucket.expired (b : Bucket) (cfg : ReceiverConfig) (lNow : ℤ) : Bool :=
  decide (b.mTimeoutUs ≤ lNow) ||
    (decide (cfg.mHolTimeoutMs > 0) &&
      decide (lNow - b.mFirstArrivalUs ≥ (cfg.mHolTimeoutMs.toNat : ℤ) * 1000))

theorem Bucket.due_eq (b : Bucket) (cfg : ReceiverConfig) (lNow : ℤ) :
    b.due cfg lNow = (b.complete || b.expired cfg lNow) := Bool.or_assoc _ _ _

namespace Receiver

variable {B : BufferSize} {S : Superframe} {src : UInt8} {r : Receiver B} {fs : List Fragment}
  {n : UInt16}

/-- The frames with the number among the deliveries, in order. -/
def framesOf (n : UInt16) (os : List (Output B)) : List SuperFrame :=
  ((deliveries os).map Delivery.frame).filter fun f => f.mSuperFrameNo = n

theorem framesOf_append (n : UInt16) (os os' : List (Output B)) :
    framesOf n (os ++ os') = framesOf n os ++ framesOf n os' := by
  rw [framesOf, deliveries_append, List.map_append, List.filter_append]
  rfl

/-- A pass delivers at most one frame with the number, out of the bucket that
the number selects. -/
theorem Represented.framesOf_pass (h : r.Represented) (cfg : ReceiverConfig) (clk : PassClock)
    (n : UInt16) :
    framesOf n (r.processTimeouts cfg clk).2 =
      if ((r.bucketOf n).mActive = true ∧ (r.bucketOf n).due cfg clk.timeouts = true) ∧
          (r.bucketOf n).mSavedFrameNo = n then [(r.bucketOf n).delivered] else [] := by
  have hunique : ∀ i ∈ r.dueList cfg clk.timeouts,
      decide ((r.mpBuckets i).mSavedFrameNo = n) = true → i = B.index n := by
    intro i hi hn
    rw [← of_decide_eq_true hn, (h.wellFormed i (h.mem_dueList.mp hi).1).index]
  have hfilter := filter_eq_of_nodup (h.nodup_dueList cfg clk.timeouts) hunique
  rw [framesOf, (h.passed cfg clk).2, List.map_map, List.filter_map]
  change ((r.dueList cfg clk.timeouts).filter fun i =>
    decide ((r.mpBuckets i).mSavedFrameNo = n)).map (fun i => (r.mpBuckets i).delivered) = _
  rw [hfilter, if_congr (and_congr h.mem_dueList decide_eq_true_iff) rfl rfl,
    apply_ite (List.map _)]
  rfl

/-! ### The stages over a pass -/

theorem Passed.bucketOf_inactive {cfg : ReceiverConfig} {now : ℤ} {r' : Receiver B}
    (h : Passed cfg now r r') (hinact : (r.bucketOf n).mActive = false) :
    (r'.bucketOf n).core = (r.bucketOf n).core := by
  refine (h.buckets (B.index n)).trans (if_neg fun hdue => ?_)
  exact Bool.false_ne_true (hinact.symm.trans hdue.1)

theorem Awaits.pass {cfg : ReceiverConfig} {now : ℤ} {r' : Receiver B} (ha : r.Awaits n)
    (h : Passed cfg now r r') : r'.Awaits n := by
  refine ⟨(Bucket.eq_of_core (h.bucketOf_inactive ha.inactive) Bucket.mActive fun _ => rfl).trans
      ha.inactive,
    fun heq => ha.order_ne ?_⟩
  rw [unwrapped, h.frameNo] at heq
  exact heq.trans (h.mDeliveryOrder _)

theorem Current.pass {cfg : ReceiverConfig} {now : ℤ} {r' : Receiver B} (hc : r.Current n)
    (h : Passed cfg now r r') : r'.Current n := by
  refine ⟨?_, ?_, ?_⟩
  · rw [h.frameNo, hc.mFirstFrame]
  · rw [h.frameNo, hc.mOldFrameNo]
  · rw [h.frameNo, hc.mFrameNoRecalc]
    exact (h.mDeliveryOrder _).symm

theorem Finished.pass {cfg : ReceiverConfig} {now : ℤ} {r' : Receiver B} (hd : r.Finished n)
    (h : Passed cfg now r r') : r'.Finished n :=
  ⟨(Bucket.eq_of_core (h.bucketOf_inactive hd.inactive) Bucket.mActive fun _ => rfl).trans
      hd.inactive,
    hd.current.pass h⟩

theorem framesOf_of_inactive (h : r.Represented) (hinact : (r.bucketOf n).mActive = false)
    (cfg : ReceiverConfig) (clk : PassClock) :
    framesOf n (r.processTimeouts cfg clk).2 = [] := by
  rw [h.framesOf_pass, if_neg]
  exact fun hdue => Bool.false_ne_true (hinact.symm.trans hdue.1.1)

/-- A pass does not find the bucket of the number expired while something is
missing in it. -/
def Unexpired (cfg : ReceiverConfig) (n : UInt16) (r : Receiver B) : Call → Prop
  | .packet _ _ _ => True
  | .pass clk =>
      (r.bucketOf n).mActive = true → (r.bucketOf n).complete = false →
        (r.bucketOf n).expired cfg clk.timeouts = false

instance (cfg : ReceiverConfig) (n : UInt16) (r : Receiver B) :
    (c : Call) → Decidable (Unexpired cfg n r c)
  | .packet _ _ _ => isTrue trivial
  | .pass clk =>
      inferInstanceAs (Decidable ((r.bucketOf n).mActive = true →
        (r.bucketOf n).complete = false → (r.bucketOf n).expired cfg clk.timeouts = false))

/-- A pass over a bucket that has not expired delivers the frame if all
fragments are there, and nothing otherwise. -/
theorem Underway.pass (hrep : r.Represented) (hu : r.Underway S src fs) {cfg : ReceiverConfig}
    {clk : PassClock} (hun : r.Unexpired cfg S.mSuperFrameNo (.pass clk)) :
    ((r.processTimeouts cfg clk).1.Underway S src fs ∧
        framesOf S.mSuperFrameNo (r.processTimeouts cfg clk).2 = [] ∧
        ∃ f ∈ S.fragments, f ∉ fs) ∨
      ((r.processTimeouts cfg clk).1.Finished S.mSuperFrameNo ∧
        ∃ frame, framesOf S.mSuperFrameNo (r.processTimeouts cfg clk).2 = [frame] ∧
          frame.Carries S src) := by
  have hpass := (hrep.passed cfg clk).1
  cases hu with
  | awaits ha =>
      exact .inl ⟨.awaits (ha.pass hpass), framesOf_of_inactive hrep ha.inactive cfg clk, _,
        Superframe.type2_mem, List.not_mem_nil⟩
  | @collects h _ hc hcur hmem =>
      have hwf := hrep.wellFormed _ hc.active
      have hiff : (r.bucketOf S.mSuperFrameNo).complete = true ↔ ∀ f ∈ S.fragments, f ∈ h :=
        hc.built.complete_iff hc.subset (Bucket.wellFormed_core.mpr hwf)
      have hsaved : (r.bucketOf S.mSuperFrameNo).mSavedFrameNo = S.mSuperFrameNo :=
        (hc.built.belongs hc.subset).mSavedFrameNo
      have hbucket : ((r.processTimeouts cfg clk).1.bucketOf S.mSuperFrameNo).core = _ :=
        hpass.buckets (B.index S.mSuperFrameNo)
      cases hcomplete : (r.bucketOf S.mSuperFrameNo).complete with
      | false =>
          have hdue : (r.bucketOf S.mSuperFrameNo).due cfg clk.timeouts = false := by
            rw [Bucket.due_eq, hcomplete, hun hc.active hcomplete]
            rfl
          have hnot : ¬ ((r.bucketOf S.mSuperFrameNo).mActive = true ∧
              (r.bucketOf S.mSuperFrameNo).due cfg clk.timeouts = true) :=
            fun hboth => Bool.false_ne_true (hdue.symm.trans hboth.2)
          have hsame := hbucket.trans (if_neg hnot)
          have hmissing : ∃ f ∈ S.fragments, f ∉ h := by
            by_contra hall
            push Not at hall
            exact Bool.false_ne_true (hcomplete.symm.trans (hiff.mpr hall))
          obtain ⟨f, hf, hnew⟩ := hmissing
          refine .inl ⟨.collects ⟨?_, ?_, hc.subset, ?_⟩ (hcur.pass hpass) hmem, ?_, f, hf,
            fun hin => hnew (hmem f hin)⟩
          · exact (Bucket.eq_of_core hsame Bucket.mActive fun _ => rfl).trans hc.active
          · rw [hsame]
            exact hc.built
          · exact (Bucket.eq_of_core hsame Bucket.mSourceId fun _ => rfl).trans hc.mSourceId
          · rw [hrep.framesOf_pass, if_neg fun hall => hnot hall.1]
      | true =>
          have hdue : (r.bucketOf S.mSuperFrameNo).due cfg clk.timeouts = true := by
            rw [Bucket.due_eq, hcomplete]
            rfl
          have hclosed := hbucket.trans (if_pos ⟨hc.active, hdue⟩)
          have hinactive : ((r.processTimeouts cfg clk).1.bucketOf S.mSuperFrameNo).mActive =
              false :=
            Bucket.eq_of_core (hclosed.trans (Bucket.core_closed _).symm) Bucket.mActive fun _ => rfl
          refine .inr ⟨⟨hinactive, hcur.pass hpass⟩,
            (r.bucketOf S.mSuperFrameNo).delivered, ?_, ?_⟩
          · rw [hrep.framesOf_pass, if_pos ⟨⟨hc.active, hdue⟩, hsaved⟩]
          · have hcarries := hc.built.carries hc.subset (hiff.mp hcomplete) hcomplete
            rw [Bucket.core_delivered] at hcarries
            exact hc.mSourceId ▸ hcarries

/-! ### Runs -/

/-- The call hands over a packet of the superframe from the source, or is a
pass. -/
inductive Feeds (S : Superframe) (src : UInt8) : Call → Prop
  | packet {env : Surroundings} {data : List UInt8} (memalign : ∀ k, env.memalign k = true)
      (carried : S.Carried data) : Feeds S src (.packet env data src)
  | pass (clk : PassClock) : Feeds S src (.pass clk)

def handedOver (cs : List Call) : List Fragment :=
  cs.flatMap fun
    | .packet _ aData _ => fragmentsIn aData
    | .pass _ => []

theorem Finished.run (hrep : r.Represented) (hd : r.Finished S.mSuperFrameNo)
    (cfg : ReceiverConfig) {cs : List Call} (hcs : ∀ c ∈ cs, Feeds S src c) :
    framesOf S.mSuperFrameNo ((Receiver.machine B cfg).run r cs).2 = [] := by
  induction cs generalizing r with
  | nil => rfl
  | cons c cs ih =>
      have hrest : ∀ c ∈ cs, Feeds S src c := fun c hc => hcs c (List.mem_cons_of_mem _ hc)
      have hnext := represented_step hrep cfg c
      rw [Machine.run_cons, framesOf_append]
      cases hcs c List.mem_cons_self with
      | packet halloc hdata => exact ih hnext (hd.dispatch hdata cfg _ src) hrest
      | pass clk =>
          have hlast := ih hnext (hd.pass (hrep.passed cfg clk).1) hrest
          rw [hlast, List.append_nil]
          exact framesOf_of_inactive hrep hd.inactive cfg clk

/-- A run that ends in a pass delivers the frame once, if all fragments have
been handed over by then. -/
theorem Underway.run (hrep : r.Represented) (hu : r.Underway S src fs) {cfg : ReceiverConfig}
    {cs : List Call} {clk : PassClock} (hcs : ∀ c ∈ cs, Feeds S src c)
    (hun : (Receiver.machine B cfg).Along (Unexpired cfg S.mSuperFrameNo) r (cs ++ [.pass clk]))
    (hall : ∀ f ∈ S.fragments, f ∈ fs ++ handedOver cs) :
    ∃ frame, framesOf S.mSuperFrameNo
        ((Receiver.machine B cfg).run r (cs ++ [.pass clk])).2 = [frame] ∧
      frame.Carries S src := by
  induction cs generalizing r fs with
  | nil =>
      rw [handedOver, List.flatMap_nil, List.append_nil] at hall
      rw [List.nil_append, Machine.run_cons, framesOf_append, Machine.run_nil]
      rcases hu.pass hrep hun.1 with ⟨-, -, f, hf, hnew⟩ | ⟨-, frame, hframe, hcarries⟩
      · exact absurd (hall f hf) hnew
      · exact ⟨frame, by rw [Receiver.machine, hframe]; rfl, hcarries⟩
  | cons c cs ih =>
      have hrest : ∀ c ∈ cs, Feeds S src c := fun c hc => hcs c (List.mem_cons_of_mem _ hc)
      have hnext := represented_step hrep cfg c
      rw [List.cons_append, Machine.run_cons, framesOf_append]
      rw [handedOver, List.flatMap_cons] at hall
      cases hcs c List.mem_cons_self with
      | @packet env data halloc hdata =>
          rw [← List.append_assoc] at hall
          exact ih hnext (hu.dispatch hdata cfg halloc) hrest hun.2 hall
      | pass clk' =>
          rcases hu.pass hrep hun.1 with ⟨hu', hnone, -⟩ | ⟨hd, frame, hframe, hcarries⟩
          · obtain ⟨frame, hframe, hcarries⟩ := ih hnext hu' hrest hun.2 hall
            refine ⟨frame, ?_, hcarries⟩
            rw [hframe]
            exact congrArg (· ++ [frame]) hnone
          · have hlast : ∀ c ∈ cs ++ [.pass clk], Feeds S src c := by
              intro c hc
              rcases List.mem_append.mp hc with hc | hc
              · exact hrest c hc
              · exact List.mem_singleton.mp hc ▸ .pass clk
            refine ⟨frame, ?_, hcarries⟩
            rw [Finished.run hnext hd cfg hlast, List.append_nil]
            exact hframe

end Receiver

end ElasticFrame
