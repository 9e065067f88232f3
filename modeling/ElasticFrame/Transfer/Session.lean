import ElasticFrame.Transfer.Network
import ElasticFrame.Receiver.Isolation

/-!
A receiver that is handed the packets of many superframes, mixed up in any way.
The counters move back and forth between their numbers, so a superframe cannot
count on them; but as long as all numbers lie within a span, whether a fragment
is too old depends on its own bucket alone. A superframe then goes through the
same stages as on its own, and is delivered once.
-/

namespace ElasticFrame

open Lib

/-! ### What a packet may do -/

theorem packet_of_ofPacket {d : List UInt8} {f : Fragment} (h : Fragment.ofPacket d = some f) :
    f.packet = d := by
  rw [Fragment.ofPacket] at h
  split at h
  · exact Option.some.inj h ▸ rfl
  · exact Option.some.inj h ▸ rfl
  · exact Option.some.inj h ▸ rfl
  · cases h

theorem mem_fragmentsIn {data : List UInt8} {f : Fragment} :
    f ∈ fragmentsIn data ↔ Receiver.ReadFrom data f := by
  rw [fragmentsIn, List.mem_filterMap, Receiver.ReadFrom]
  constructor
  · rintro ⟨d, hd, hf⟩
    obtain rfl := packet_of_ofPacket hf
    exact ⟨hd, hf⟩
  · rintro ⟨hd, hf⟩
    exact ⟨f.packet, hd, hf⟩

theorem Superframe.Carried.fragmentsIn {S : Superframe} {data : List UInt8} (h : S.Carried data) :
    ∀ f ∈ fragmentsIn data, f ∈ S.fragments := by
  intro f hf
  cases h with
  | alone mem packet =>
      rw [fragmentsIn_of_ofPacket packet] at hf
      exact List.mem_singleton.mp hf ▸ mem
  | bundle pos le mem =>
      rw [Superframe.fragmentsIn_bundle pos le mem] at hf
      obtain ⟨m, hm, rfl⟩ := List.mem_map.mp hf
      exact (mem m hm).1

namespace Receiver

variable {B : BufferSize} {S : Superframe} {src : UInt8} {r : Receiver B} {fs : List Fragment}
  {handed : List Fragment} {base n : UInt16}

/-- The rule for `dispatch` with a condition: what the fragments read from the
packet keep, the packet keeps. -/
theorem dispatch_of_readFrom {P : Fragment → Prop} {I : Receiver B → Prop} (cfg : ReceiverConfig)
    (hhandle : ∀ r now memalign src f, P f → I r → I (r.handle cfg now memalign src f).1)
    (hbundle : ∀ r : Receiver B, I r → I r.countBundle) (env : Surroundings) {aData : List UInt8}
    (hP : ∀ f, ReadFrom aData f → P f) (hr : I r) (src : UInt8) :
    I (r.dispatch cfg env aData src).1 := by
  have halong : (fine B cfg).Along (fun _ a => a = .bundle ∨ ∃ now memalign f,
      a = .handle now memalign src f ∧ P f) r (r.packetActs cfg env aData src) := by
    apply Machine.along_of_forall
    intro _ a ha
    rcases mem_packetActs cfg r env ha with heq | ⟨now, memalign, f, heq, hread⟩
    · exact .inl heq
    · exact .inr ⟨now, memalign, f, heq, hP f hread⟩
  have hrun := congrArg Prod.fst (run_packetActs cfg r env aData src)
  rw [← hrun]
  refine (fine B cfg).run_invariant (fun s a hs ha => ?_) hr halong
  rcases ha with rfl | ⟨now, memalign, f, rfl, hf⟩
  · exact hbundle s hs
  · exact hhandle s now memalign src f hf hs

/-- The rule for a packet of the superframe: if each fragment is taken and none
of them ends a bundle, all fragments of the packet are taken. -/
theorem dispatch_carried {I : Receiver B → List Fragment → Prop} (cfg : ReceiverConfig)
    (hhandle : ∀ r fs f now, f ∈ S.fragments → I r fs →
      ¬ (r.handle cfg now true src f).2.endsBundle ∧
        I (r.handle cfg now true src f).1 (fs ++ [f]))
    (hsame : ∀ r r' fs, I r fs → r.SameButStatistics r' → I r' fs) {data : List UInt8}
    (hdata : S.Carried data) {env : Surroundings} (halloc : ∀ k, env.memalign k = true)
    (hr : I r fs) : I (r.dispatch cfg env data src).1 (fs ++ fragmentsIn data) := by
  have hmembers : ∀ (members : List (List UInt8)) (lI : ℕ) (r : Receiver B) (fs : List Fragment),
      (∀ m ∈ members, .type1 m ∈ S.fragments) → I r fs →
        I (handleMembers (handleMember cfg env src) lI members r) (fs ++ members.map .type1) := by
    intro members
    induction members with
    | nil =>
        intro lI r fs _ hr
        rwa [List.map_nil, List.append_nil]
    | cons m members ih =>
        intro lI r fs hmem hr
        have hstep := (hhandle r fs (.type1 m) (env.nowUs lI) (hmem m List.mem_cons_self) hr).2
        rw [← halloc lI] at hstep
        have hrest := ih (lI + 1) _ _ (fun m hm => hmem m (List.mem_cons_of_mem _ hm)) hstep
        rwa [List.append_assoc] at hrest
  cases hdata with
  | alone mem packet =>
      rw [dispatch_of_ofPacket cfg r env src packet, halloc, fragmentsIn_of_ofPacket packet]
      exact (hhandle r fs _ (env.nowUs 0) mem hr).2
  | @bundle o members pos le mem =>
      obtain ⟨handled, rest, rfl, hstop, hstats⟩ :=
        dispatch_members cfg r env (o := o) src pos le mem
      have hmem : ∀ m ∈ handled, .type1 m ∈ S.fragments :=
        fun m hm => (mem m (List.mem_append_left _ hm)).1
      have hrest : rest = [] := by
        by_contra hne
        obtain ⟨front, member, rfl, hends⟩ := hstop.last hne
        have hfront := hmembers front 0 r fs (fun m hm => hmem m (List.mem_append_left _ hm)) hr
        have hmember := (hhandle _ _ (.type1 member) (env.nowUs (0 + front.length))
          (hmem member (by simp)) hfront).1
        rw [← halloc (0 + front.length)] at hmember
        exact hmember hends
      subst hrest
      rw [List.append_nil] at hstats
      rw [Superframe.fragmentsIn_bundle pos le mem, List.append_nil]
      exact hsame _ _ _ (hmembers handled 0 r fs hmem hr) hstats

/-! ### The stages -/

/-- All numbers that have been unwrapped lie in the span from `base` on. -/
def Within (base : UInt16) (r : Receiver B) : Prop := ∃ last c, r.Spanned base last c

/-- Of the fragments that have been handed over none is of the superframe, or
its bucket is made of those that are. -/
inductive Pending (r : Receiver B) (S : Superframe) (src : UInt8) (handed : List Fragment) : Prop
  | awaits (untouched : (r.bucketOf S.mSuperFrameNo).Untouched)
      (none : ∀ f ∈ S.fragments, f ∉ handed)
  | collects {h : List Fragment} (collects : r.Collects S src h)
      (same : ∀ f ∈ S.fragments, f ∈ h ↔ f ∈ handed)

/-- The bucket of the number has been opened and is closed again. -/
structure Closed (r : Receiver B) (n : UInt16) : Prop where
  inactive : (r.bucketOf n).mActive = false
  opened : (r.bucketOf n).mDeliveryOrder ≠ int64Max

theorem Within.of_same {r' : Receiver B} (h : r.Within base) (hsame : r.SameButStatistics r') :
    r'.Within base := by
  obtain ⟨last, c, h⟩ := h
  obtain ⟨stats, rfl⟩ := hsame
  exact ⟨last, c, h.represented.has h.represented.congruent ⟨rfl, rfl, rfl, rfl⟩, h.tracks, h.seen,
    h.bounded, h.buckets⟩

theorem Within.handle (h : r.Within base) (cfg : ReceiverConfig) (now : ℤ) (memalign : Bool)
    (src : UInt8) {f : Fragment} (hf : B.InSpan base f.superFrameNo) :
    (r.handle cfg now memalign src f).1.Within base := by
  obtain ⟨last, c, h⟩ := h
  exact h.handle cfg now memalign src f fun _ => hf

/-- The stages read the bucket of the superframe and nothing else. -/
theorem Pending.of_bucketOf {r' : Receiver B} (hp : r.Pending S src handed)
    (hsame : r'.bucketOf S.mSuperFrameNo = r.bucketOf S.mSuperFrameNo) :
    r'.Pending S src handed := by
  cases hp with
  | awaits huntouched hnone => exact .awaits (hsame ▸ huntouched) hnone
  | collects hc hmem =>
      exact .collects ⟨hsame ▸ hc.active, hsame ▸ hc.built, hc.subset, hsame ▸ hc.mSourceId⟩ hmem

theorem Pending.append {others : List Fragment} (hp : r.Pending S src handed)
    (hothers : ∀ f ∈ S.fragments, f ∉ others) : r.Pending S src (handed ++ others) := by
  have hmem : ∀ f ∈ S.fragments, f ∈ handed ++ others ↔ f ∈ handed := fun f hf => by
    rw [List.mem_append, or_iff_left (hothers f hf)]
  cases hp with
  | awaits huntouched hnone =>
      exact .awaits huntouched fun f hf hin => hnone f hf ((hmem f hf).mp hin)
  | collects hc hsame => exact .collects hc fun f hf => (hsame f hf).trans (hmem f hf).symm

theorem bucketOf_handle_of_ne (cfg : ReceiverConfig) (r : Receiver B) (now : ℤ) (memalign : Bool)
    (src : UInt8) {f : Fragment} (hn : B.InSpan base n) (hf : B.InSpan base f.superFrameNo)
    (hne : f.superFrameNo ≠ n) :
    (r.handle cfg now memalign src f).1.bucketOf n = r.bucketOf n := by
  have hindex : B.index n ≠ B.index f.superFrameNo := fun heq => hne (hn.eq_of_index hf heq).symm
  rw [bucketOf, handle_mpBuckets, Function.update_of_ne hindex, bucketOf]

theorem Pending.handle {f : Fragment} (hw : r.Within base) (hn : B.InSpan base S.mSuperFrameNo)
    (hp : r.Pending S src handed) (hf : f ∈ S.fragments) (cfg : ReceiverConfig) (now : ℤ) :
    ¬ (r.handle cfg now true src f).2.endsBundle ∧
      (r.handle cfg now true src f).1.Pending S src (handed ++ [f]) := by
  cases hp with
  | awaits huntouched hnone =>
      obtain ⟨last, c, hspanned⟩ := hw
      have hawaits : r.Awaits S.mSuperFrameNo :=
        ⟨huntouched.1, fun heq => (hspanned.stale_iff hn).mp heq huntouched.2⟩
      obtain ⟨hres, hcollects, -⟩ := hawaits.handle hf cfg now src
      refine ⟨?_, .collects hcollects fun g hg => ?_⟩
      · rw [hres]
        exact fun hends => hends.1 rfl
      · rw [List.mem_append, or_iff_right (hnone g hg)]
  | @collects h hc hsame =>
      obtain ⟨hres, hcollects, -, -⟩ := hc.handle hf cfg now true
      refine ⟨?_, .collects hcollects fun g hg => ?_⟩
      · rw [hres]
        split_ifs
        · exact fun hends => hends.2 rfl
        · exact fun hends => hends.1 rfl
      · rw [List.mem_append, ← hsame g hg]
        split_ifs with hin
        · refine (or_iff_left_of_imp fun heq => ?_).symm
          exact List.mem_singleton.mp heq ▸ hin
        · exact List.mem_append

theorem Closed.handle {f : Fragment} (hw : r.Within base) (hn : B.InSpan base n)
    (hc : r.Closed n) (hf : B.InSpan base f.superFrameNo) (cfg : ReceiverConfig) (now : ℤ)
    (memalign : Bool) (src : UInt8) : (r.handle cfg now memalign src f).1.Closed n := by
  by_cases hne : f.superFrameNo = n
  · subst hne
    obtain ⟨last, c, hspanned⟩ := hw
    have hstale := (hspanned.stale_iff hn).mpr hc.opened
    have hbucket : (r.handle cfg now memalign src f).1.bucketOf f.superFrameNo =
        r.bucketOf f.superFrameNo := by
      rw [handle_eq, Fragment.verdict, hstale, if_pos hc.inactive, if_pos rfl]
      by_cases hshort : f.packet.length < f.headerSize
      · rw [if_pos hshort]
        rfl
      · rw [if_neg hshort]
        cases f.check <;> rfl
    exact ⟨hbucket ▸ hc.inactive, hbucket ▸ hc.opened⟩
  · have hbucket := bucketOf_handle_of_ne cfg r now memalign src hn hf hne
    exact ⟨hbucket ▸ hc.inactive, hbucket ▸ hc.opened⟩

/-! ### Passes -/

/-- A pass over a bucket that collects and has not expired delivers the frame if
all fragments are there, and nothing otherwise. -/
theorem Collects.pass {h : List Fragment} (hrep : r.Represented) (hc : r.Collects S src h)
    {cfg : ReceiverConfig} {clk : PassClock}
    (hun : r.Unexpired cfg S.mSuperFrameNo (.pass clk)) :
    ((r.processTimeouts cfg clk).1.Collects S src h ∧
        framesOf S.mSuperFrameNo (r.processTimeouts cfg clk).2 = [] ∧
        ∃ f ∈ S.fragments, f ∉ h) ∨
      (((r.processTimeouts cfg clk).1.bucketOf S.mSuperFrameNo).mActive = false ∧
        (∃ frame, framesOf S.mSuperFrameNo (r.processTimeouts cfg clk).2 = [frame] ∧
          frame.Carries S src) ∧ ∀ f ∈ S.fragments, f ∈ h) := by
  have hpass := (hrep.passed cfg clk).1
  have hwf := hrep.wellFormed _ hc.active
  have hiff : (r.bucketOf S.mSuperFrameNo).complete = true ↔ ∀ f ∈ S.fragments, f ∈ h :=
    hc.built.complete_iff hc.subset (Bucket.wellFormed_core.mpr hwf)
  have hbucket : ((r.processTimeouts cfg clk).1.bucketOf S.mSuperFrameNo).core = _ :=
    hpass.buckets (B.index S.mSuperFrameNo)
  cases hcomplete : (r.bucketOf S.mSuperFrameNo).complete with
  | false =>
      have hdue : (r.bucketOf S.mSuperFrameNo).due cfg clk.timeouts = false := by
        rw [Bucket.due_eq, hcomplete, hun hc.active hcomplete]
        rfl
      have hnot : ¬ ((r.bucketOf S.mSuperFrameNo).mActive = true ∧
          (r.bucketOf S.mSuperFrameNo).due cfg clk.timeouts = true) :=
        fun hboth => Bool.false_ne_true (hdue.symm.trans hboth.2)
      have hsame := hbucket.trans (if_neg hnot)
      refine .inl ⟨⟨?_, ?_, hc.subset, ?_⟩, ?_, ?_⟩
      · exact (Bucket.eq_of_core hsame Bucket.mActive fun _ => rfl).trans hc.active
      · rw [hsame]
        exact hc.built
      · exact (Bucket.eq_of_core hsame Bucket.mSourceId fun _ => rfl).trans hc.mSourceId
      · rw [hrep.framesOf_pass, if_neg fun hall => hnot hall.1]
      · by_contra hall
        push Not at hall
        exact Bool.false_ne_true (hcomplete.symm.trans (hiff.mpr hall))
  | true =>
      have hdue : (r.bucketOf S.mSuperFrameNo).due cfg clk.timeouts = true := by
        rw [Bucket.due_eq, hcomplete]
        rfl
      have hclosed := hbucket.trans (if_pos ⟨hc.active, hdue⟩)
      refine .inr ⟨Bucket.eq_of_core (hclosed.trans (Bucket.core_closed _).symm) Bucket.mActive
        fun _ => rfl, ⟨(r.bucketOf S.mSuperFrameNo).delivered, ?_, ?_⟩, hiff.mp hcomplete⟩
      · rw [hrep.framesOf_pass,
          if_pos ⟨⟨hc.active, hdue⟩, (hc.built.belongs hc.subset).mSavedFrameNo⟩]
      · have hcarries := hc.built.carries hc.subset (hiff.mp hcomplete) hcomplete
        rw [Bucket.core_delivered] at hcarries
        exact hc.mSourceId ▸ hcarries

theorem Within.mDeliveryOrder_pass (h : r.Within base) (cfg : ReceiverConfig) (clk : PassClock)
    (n : UInt16) : ((r.processTimeouts cfg clk).1.bucketOf n).mDeliveryOrder =
      (r.bucketOf n).mDeliveryOrder := by
  obtain ⟨last, c, h⟩ := h
  exact (h.represented.passed cfg clk).1.mDeliveryOrder (B.index n)

theorem Within.pass (h : r.Within base) (cfg : ReceiverConfig) (clk : PassClock) :
    (r.processTimeouts cfg clk).1.Within base := by
  obtain ⟨last, c, h⟩ := h
  exact ⟨last, c, h.pass cfg clk⟩

theorem Within.represented (h : r.Within base) : r.Represented := by
  obtain ⟨last, c, h⟩ := h
  exact h.represented

theorem Closed.pass (hw : r.Within base) (hc : r.Closed n) (cfg : ReceiverConfig)
    (clk : PassClock) : (r.processTimeouts cfg clk).1.Closed n := by
  have hpass := (hw.represented.passed cfg clk).1
  refine ⟨?_, ?_⟩
  · have hcore := hpass.bucketOf_inactive hc.inactive
    exact (Bucket.eq_of_core hcore Bucket.mActive fun _ => rfl).trans hc.inactive
  · rw [hw.mDeliveryOrder_pass]
    exact hc.opened

/-- The order of a bucket that collects is that of its superframe. -/
theorem Collects.opened {h : List Fragment} (hw : r.Within base) (hc : r.Collects S src h) :
    (r.bucketOf S.mSuperFrameNo).mDeliveryOrder ≠ int64Max := by
  obtain ⟨last, c, hspanned⟩ := hw
  rcases hspanned.buckets (B.index S.mSuperFrameNo) with huntouched | ⟨-, hopened⟩
  · exact absurd (huntouched.1.symm.trans hc.active) Bool.false_ne_true
  · have horder : (r.bucketOf S.mSuperFrameNo).mDeliveryOrder = _ := hopened.order
    rw [horder]
    exact ne_of_lt (order_lt base _ hspanned.bounded)

theorem Pending.pass (hw : r.Within base) (hp : r.Pending S src handed) {cfg : ReceiverConfig}
    {clk : PassClock} (hun : r.Unexpired cfg S.mSuperFrameNo (.pass clk)) :
    ((r.processTimeouts cfg clk).1.Pending S src handed ∧
        framesOf S.mSuperFrameNo (r.processTimeouts cfg clk).2 = [] ∧
        ∃ f ∈ S.fragments, f ∉ handed) ∨
      ((r.processTimeouts cfg clk).1.Closed S.mSuperFrameNo ∧
        (∃ frame, framesOf S.mSuperFrameNo (r.processTimeouts cfg clk).2 = [frame] ∧
          frame.Carries S src) ∧ ∀ f ∈ S.fragments, f ∈ handed) := by
  cases hp with
  | awaits huntouched hnone =>
      have hcore := (hw.represented.passed cfg clk).1.bucketOf_inactive huntouched.1
      refine .inl ⟨.awaits ⟨?_, ?_⟩ hnone, framesOf_of_inactive hw.represented huntouched.1 cfg clk,
        _, Superframe.type2_mem, hnone _ Superframe.type2_mem⟩
      · exact (Bucket.eq_of_core hcore Bucket.mActive fun _ => rfl).trans huntouched.1
      · rw [hw.mDeliveryOrder_pass]
        exact huntouched.2
  | collects hc hsame =>
      rcases hc.pass hw.represented hun with
        ⟨hc', hnone, f, hf, hnew⟩ | ⟨hinactive, hframe, hall⟩
      · exact .inl ⟨.collects hc' hsame, hnone, f, hf, fun hin => hnew ((hsame f hf).mpr hin)⟩
      · refine .inr ⟨⟨hinactive, ?_⟩, hframe, fun f hf => (hsame f hf).mp (hall f hf)⟩
        rw [hw.mDeliveryOrder_pass]
        exact hc.opened hw

/-! ### Runs -/

def ReadsWithin (B : BufferSize) (base : UInt16) : Call → Prop
  | .packet _ aData _ => ∀ f, ReadFrom aData f → B.InSpan base f.superFrameNo
  | .pass _ => True

/-- The call hands over a packet of the superframe from the source, or one that
has nothing of it, or is a pass. -/
inductive Arrives (S : Superframe) (src : UInt8) : Call → Prop
  | own {env : Surroundings} {data : List UInt8} (memalign : ∀ k, env.memalign k = true)
      (carried : S.Carried data) : Arrives S src (.packet env data src)
  | other {env : Surroundings} {data : List UInt8} {aSourceId : UInt8}
      (reads : ∀ f, ReadFrom data f → f.superFrameNo ≠ S.mSuperFrameNo) :
      Arrives S src (.packet env data aSourceId)
  | pass (clk : PassClock) : Arrives S src (.pass clk)

theorem Within.step (hw : r.Within base) (cfg : ReceiverConfig) {c : Call}
    (hc : ReadsWithin B base c) : ((Receiver.machine B cfg).step r c).1.Within base := by
  cases c with
  | packet env aData aSourceId =>
      exact dispatch_of_readFrom cfg
        (fun r now memalign src f hf hr => hr.handle cfg now memalign src hf)
        (fun r hr => hr.of_same ⟨_, rfl⟩) env hc hw aSourceId
  | pass clk => exact hw.pass cfg clk

/-- A packet of the superframe is taken in, any other leaves the stage as it
is. -/
theorem Pending.packet (hw : r.Within base) (hn : B.InSpan base S.mSuperFrameNo)
    (hp : r.Pending S src handed) (cfg : ReceiverConfig) {env : Surroundings} {aData : List UInt8}
    {aSourceId : UInt8} (hc : ReadsWithin B base (.packet env aData aSourceId))
    (ha : Arrives S src (.packet env aData aSourceId)) :
    (r.dispatch cfg env aData aSourceId).1.Pending S src (handed ++ fragmentsIn aData) := by
  cases ha with
  | own halloc hdata =>
      refine (dispatch_carried (I := fun r fs => r.Within base ∧ r.Pending S src fs) cfg
        (fun r fs f now hf hr => ?_) (fun r r' fs hr hsame => ?_) hdata halloc ⟨hw, hp⟩).2
      · obtain ⟨hends, hpending⟩ := hr.2.handle hr.1 hn hf cfg now
        exact ⟨hends, hr.1.handle cfg now true src ((S.superFrameNo f hf).symm ▸ hn), hpending⟩
      · refine ⟨hr.1.of_same hsame, hr.2.of_bucketOf ?_⟩
        obtain ⟨stats, rfl⟩ := hsame
        rfl
  | other hreads =>
      refine Pending.append ?_ fun f hf hin =>
        absurd (S.superFrameNo f hf) (hreads f (mem_fragmentsIn.mp hin))
      exact dispatch_of_readFrom (P := fun f => B.InSpan base f.superFrameNo ∧
        f.superFrameNo ≠ S.mSuperFrameNo) (I := fun r => r.Pending S src handed) cfg
        (fun r now memalign src' f hf hr => hr.of_bucketOf
          (bucketOf_handle_of_ne cfg r now memalign src' hn hf.1 hf.2))
        (fun r hr => hr.of_bucketOf rfl) env (fun f hf => ⟨hc f hf, hreads f hf⟩) hp aSourceId

theorem Closed.packet (hw : r.Within base) (hn : B.InSpan base n) (hc : r.Closed n)
    (cfg : ReceiverConfig) {env : Surroundings} {aData : List UInt8} {aSourceId : UInt8}
    (hreads : ReadsWithin B base (.packet env aData aSourceId)) :
    (r.dispatch cfg env aData aSourceId).1.Closed n :=
  (dispatch_of_readFrom (P := fun f => B.InSpan base f.superFrameNo)
    (I := fun r => r.Within base ∧ r.Closed n) cfg
    (fun _ now memalign src _ hf hr => ⟨hr.1.handle cfg now memalign src hf,
      hr.2.handle hr.1 hn hf cfg now memalign src⟩)
    (fun _ hr => ⟨hr.1.of_same ⟨_, rfl⟩, hr.2.inactive, hr.2.opened⟩) env hreads
    ⟨hw, hc⟩ aSourceId).2

theorem Closed.run (hw : r.Within base) (hn : B.InSpan base n) (hc : r.Closed n)
    (cfg : ReceiverConfig) {cs : List Call} (hcs : ∀ c ∈ cs, ReadsWithin B base c) :
    framesOf n ((Receiver.machine B cfg).run r cs).2 = [] := by
  induction cs generalizing r with
  | nil => rfl
  | cons c cs ih =>
      have hrest : ∀ c ∈ cs, ReadsWithin B base c := fun c hc => hcs c (List.mem_cons_of_mem _ hc)
      have hreads := hcs c List.mem_cons_self
      have hnext := hw.step cfg hreads
      rw [Machine.run_cons, framesOf_append]
      cases c with
      | packet env aData aSourceId => exact ih hnext (hc.packet hw hn cfg hreads) hrest
      | pass clk =>
          rw [ih hnext (hc.pass hw cfg clk) hrest, List.append_nil]
          exact framesOf_of_inactive hw.represented hc.inactive cfg clk

/-- A run over the packets of many superframes delivers each of them once, if it
ends in a pass and all fragments of it have been handed over by then. -/
theorem Pending.run (hw : r.Within base) (hn : B.InSpan base S.mSuperFrameNo)
    (hp : r.Pending S src handed) {cfg : ReceiverConfig} {cs : List Call} {clk : PassClock}
    (hcs : ∀ c ∈ cs, ReadsWithin B base c) (harrives : ∀ c ∈ cs, Arrives S src c)
    (hun : (Receiver.machine B cfg).Along (Unexpired cfg S.mSuperFrameNo) r (cs ++ [.pass clk]))
    (hall : ∀ f ∈ S.fragments, f ∈ handed ++ handedOver cs) :
    ∃ frame, framesOf S.mSuperFrameNo
        ((Receiver.machine B cfg).run r (cs ++ [.pass clk])).2 = [frame] ∧
      frame.Carries S src := by
  induction cs generalizing r handed with
  | nil =>
      rw [handedOver, List.flatMap_nil, List.append_nil] at hall
      rw [List.nil_append, Machine.run_cons, framesOf_append, Machine.run_nil]
      rcases hp.pass hw hun.1 with ⟨-, -, f, hf, hnew⟩ | ⟨-, ⟨frame, hframe, hcarries⟩, -⟩
      · exact absurd (hall f hf) hnew
      · exact ⟨frame, by rw [Receiver.machine, hframe]; rfl, hcarries⟩
  | cons c cs ih =>
      have hrest : ∀ c ∈ cs, ReadsWithin B base c := fun c hc => hcs c (List.mem_cons_of_mem _ hc)
      have hrest' : ∀ c ∈ cs, Arrives S src c :=
        fun c hc => harrives c (List.mem_cons_of_mem _ hc)
      have hreads := hcs c List.mem_cons_self
      have hnext := hw.step cfg hreads
      rw [List.cons_append, Machine.run_cons, framesOf_append]
      rw [handedOver, List.flatMap_cons, ← List.append_assoc] at hall
      cases c with
      | packet env aData aSourceId =>
          exact ih hnext (hp.packet hw hn cfg hreads (harrives _ List.mem_cons_self)) hrest hrest'
            hun.2 hall
      | pass clk' =>
          rw [List.append_nil] at hall
          rcases hp.pass hw hun.1 with ⟨hp', hnone, -⟩ | ⟨hclosed, ⟨frame, hframe, hcarries⟩, -⟩
          · obtain ⟨frame, hframe, hcarries⟩ := ih hnext hp' hrest hrest' hun.2 hall
            refine ⟨frame, ?_, hcarries⟩
            rw [hframe]
            exact congrArg (· ++ [frame]) hnone
          · have hlast : ∀ c ∈ cs ++ [.pass clk], ReadsWithin B base c := by
              intro c hc
              rcases List.mem_append.mp hc with hc | hc
              · exact hrest c hc
              · exact List.mem_singleton.mp hc ▸ trivial
            refine ⟨frame, ?_, hcarries⟩
            rw [hclosed.run hnext hn cfg hlast, List.append_nil]
            exact hframe

/-- The stage that a run over the packets of many superframes leads to. -/
theorem Pending.stage (hw : r.Within base) (hn : B.InSpan base S.mSuperFrameNo)
    (hp : r.Pending S src handed) {cfg : ReceiverConfig} {cs : List Call}
    (hcs : ∀ c ∈ cs, ReadsWithin B base c) (harrives : ∀ c ∈ cs, Arrives S src c)
    (hun : (Receiver.machine B cfg).Along (Unexpired cfg S.mSuperFrameNo) r cs) :
    ((Receiver.machine B cfg).run r cs).1.Pending S src (handed ++ handedOver cs) ∨
      ∀ f ∈ S.fragments, f ∈ handed ++ handedOver cs := by
  induction cs generalizing r handed with
  | nil =>
      rw [handedOver, List.flatMap_nil, List.append_nil]
      exact .inl hp
  | cons c cs ih =>
      have hrest : ∀ c ∈ cs, ReadsWithin B base c := fun c hc => hcs c (List.mem_cons_of_mem _ hc)
      have hrest' : ∀ c ∈ cs, Arrives S src c :=
        fun c hc => harrives c (List.mem_cons_of_mem _ hc)
      have hreads := hcs c List.mem_cons_self
      have hnext := hw.step cfg hreads
      rw [Machine.run_cons, handedOver, List.flatMap_cons, ← List.append_assoc]
      cases c with
      | packet env aData aSourceId =>
          exact ih hnext (hp.packet hw hn cfg hreads (harrives _ List.mem_cons_self)) hrest hrest'
            hun.2
      | pass clk =>
          rw [List.append_nil]
          rcases hp.pass hw hun.1 with ⟨hp', -⟩ | ⟨-, -, hall⟩
          · exact ih hnext hp' hrest hrest' hun.2
          · exact .inr fun f hf => List.mem_append_left _ (hall f hf)

end Receiver

end ElasticFrame
