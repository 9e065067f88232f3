import ElasticFrame.Receiver.Contents
import ElasticFrame.Receiver.Bundle
import ElasticFrame.Sender.Frames

/-!
A receiver that is handed the packets of one superframe, in any order and any
number of times, with passes in between.

It goes through three stages. It awaits the first fragment; it collects, and
then each fragment is either taken or refused as a duplicate; and after the
pass that finds the bucket complete, whatever still comes is too old. The
frame is delivered by that pass and by no other.
-/

namespace ElasticFrame

open Lib

/-! ### Packets of a superframe -/

def fragmentsIn (data : List UInt8) : List Fragment := (frames data).filterMap Fragment.ofPacket

/-- The packet is a fragment of the superframe, or a bundle of Type1 fragments
of it. -/
inductive Superframe.Carried (S : Superframe) : List UInt8 → Prop
  | alone {f : Fragment} (mem : f ∈ S.fragments) (packet : Fragment.ofPacket f.packet = some f) :
      S.Carried f.packet
  | bundle {o : Outgoing} {members : List (List UInt8)} (pos : 0 < members.length)
      (le : members.length ≤ 255)
      (mem : ∀ m ∈ members,
        .type1 m ∈ S.fragments ∧ Fragment.ofPacket m = some (.type1 m)) :
      S.Carried (Sender.bundle o members).data

theorem getFrameType_of_ofPacket {m : List UInt8}
    (h : Fragment.ofPacket m = some (.type1 m)) : getFrameType (byteAt m 0) = some .type1 := by
  rw [Fragment.ofPacket] at h
  split at h <;> rename_i htype
  · exact htype
  · cases h
  · cases h
  · cases h

theorem fragmentsIn_of_ofPacket {f : Fragment} (h : Fragment.ofPacket f.packet = some f) :
    fragmentsIn f.packet = [f] := by
  rw [fragmentsIn, frames_of_not (Sender.not_isBundle_of_ofPacket h), List.filterMap_cons_some h,
    List.filterMap_nil]

namespace Superframe

variable {S : Superframe}

theorem length_type1_packet {m : List UInt8} (h : .type1 m ∈ S.fragments) :
    m.length = FrameType1.sizeof + S.mFragmentSize := by
  have hlength := (S.acceptable _ h).admissible.length_packet
  have hsize : (Fragment.type1 m).size = S.mFragmentSize := S.type1Size _ h
  rw [hsize] at hlength
  exact hlength

theorem fragmentsIn_bundle {o : Outgoing} {members : List (List UInt8)} (pos : 0 < members.length)
    (le : members.length ≤ 255)
    (mem : ∀ m ∈ members, .type1 m ∈ S.fragments ∧ Fragment.ofPacket m = some (.type1 m)) :
    fragmentsIn (Sender.bundle o members).data = members.map .type1 := by
  rw [fragmentsIn, frames_bundle o pos (Nat.lt_succ_of_le le) fun m hm =>
    length_type1_packet (mem m hm).1]
  clear pos le
  induction members with
  | nil => rfl
  | cons m members ih =>
      rw [List.filterMap_cons_some (mem m List.mem_cons_self).2, List.map_cons,
        ih fun m hm => mem m (List.mem_cons_of_mem _ hm)]

end Superframe

namespace Receiver

variable {B : BufferSize} {S : Superframe} {src : UInt8} {r : Receiver B} {h : List Fragment}

/-! ### The stages -/

/-- The number would open its bucket. -/
structure Awaits (r : Receiver B) (n : UInt16) : Prop where
  inactive : (r.bucketOf n).mActive = false
  order_ne : r.unwrapped n ≠ (r.bucketOf n).mDeliveryOrder

/-- The bucket of the superframe is made of the fragments `h` of it. -/
structure Collects (r : Receiver B) (S : Superframe) (src : UInt8) (h : List Fragment) :
    Prop where
  active : (r.bucketOf S.mSuperFrameNo).mActive = true
  built : (r.bucketOf S.mSuperFrameNo).core.Built h
  subset : ∀ f ∈ h, f ∈ S.fragments
  mSourceId : (r.bucketOf S.mSuperFrameNo).mSourceId = src

/-- The counters stand at the number, and at the order of its bucket. -/
structure Current (r : Receiver B) (n : UInt16) : Prop where
  mFirstFrame : r.frameNo.mFirstFrame = false
  mOldFrameNo : r.frameNo.mOldFrameNo = n
  mFrameNoRecalc : r.frameNo.mFrameNoRecalc = (r.bucketOf n).mDeliveryOrder

/-- The number has been there, and its bucket is closed. -/
structure Finished (r : Receiver B) (n : UInt16) : Prop where
  inactive : (r.bucketOf n).mActive = false
  current : r.Current n

theorem Current.recalculate {n : UInt16} (h : r.Current n) :
    r.frameNo.recalculateSuperFrameNo n = r.frameNo := by
  have hold := h.mOldFrameNo
  have hfirst := h.mFirstFrame
  cases hno : r.frameNo with
  | mk mOldFrameNo mFrameNoRecalc mFirstFrame =>
      rw [hno] at hold hfirst
      subst hold hfirst
      simp [FrameNoTracking.recalculateSuperFrameNo]

theorem Current.unwrapped {n : UInt16} (h : r.Current n) :
    r.unwrapped n = (r.bucketOf n).mDeliveryOrder := by
  rw [Receiver.unwrapped, h.recalculate, h.mFrameNoRecalc]

/-- A fragment of the superframe passes the checks that read it alone. -/
theorem verdict_of_inactive {f : Fragment} (hf : f ∈ S.fragments) (src : UInt8) {b : Bucket}
    (hact : b.mActive = false) (lOrder : ℤ) :
    f.verdict src b lOrder =
      if lOrder = b.mDeliveryOrder then .stale .fragmentTooOld else .open := by
  have hacceptable := S.acceptable f hf
  rw [Fragment.verdict, if_neg (not_lt.mpr hacceptable.length), hacceptable.check]
  simp only [hact, if_true, hacceptable.small, Bool.false_eq_true, if_false]

theorem verdict_of_active {f : Fragment} (hf : f ∈ S.fragments) {src : UInt8} {b : Bucket}
    (hact : b.mActive = true) (lOrder : ℤ)
    (hclash : f.clash src b =
      if f.slot ∈ b.mReceivedFragments then some .duplicateFragment else none) :
    f.verdict src b lOrder =
      if f.slot ∈ b.mReceivedFragments then .duplicate else .fill := by
  have hacceptable := S.acceptable f hf
  rw [Fragment.verdict, if_neg (not_lt.mpr hacceptable.length), hacceptable.check]
  simp only [hact, Bool.true_eq_false, if_false, hclash]
  split_ifs <;> rfl

theorem Awaits.handle {f : Fragment} (ha : r.Awaits S.mSuperFrameNo) (hf : f ∈ S.fragments)
    (cfg : ReceiverConfig) (now : ℤ) (src : UInt8) :
    (r.handle cfg now true src f).2 = .ok ∧
      (r.handle cfg now true src f).1.Collects S src [f] ∧
      (r.handle cfg now true src f).1.Current S.mSuperFrameNo := by
  have hno := S.superFrameNo f hf
  have hacceptable := S.acceptable f hf
  have hverdict : f.verdict src (r.bucketOf f.superFrameNo) (r.unwrapped f.superFrameNo) =
      .open := by
    rw [hno, verdict_of_inactive hf src ha.inactive, if_neg ha.order_ne]
  rw [handle_eq, hverdict]
  obtain ⟨hres, hhas⟩ := r.act_open_of_alloc cfg now true src f ⟨hacceptable.alloc, rfl⟩
  rw [hno] at hhas
  have hbucket : ((r.act cfg now true src f .open).1.bucketOf S.mSuperFrameNo) =
      (r.bucketOf S.mSuperFrameNo).openedWith cfg now (r.unwrapped S.mSuperFrameNo)
        (f.opening src (r.mStreams f.streamId)) f.packet := by
    rw [bucketOf, hhas.mpBuckets, Function.update_self]
  refine ⟨hres, ⟨?_, ?_, fun g hg => (List.mem_singleton.mp hg) ▸ hf, ?_⟩, ?_, ?_, ?_⟩
  · rw [hbucket]
    rfl
  · rw [hbucket, Bucket.core_openedWith]
    exact .opened hacceptable.admissible hacceptable.check hacceptable.alloc
  · rw [hbucket]
    rfl
  · rw [hhas.frameNo, FrameNoTracking.recalculateSuperFrameNo]
    split_ifs with hfirst
    · rfl
    · exact eq_false_of_ne_true hfirst
  · rw [hhas.frameNo, FrameNoTracking.recalculateSuperFrameNo]
    split_ifs <;> rfl
  · rw [hhas.frameNo, hbucket]
    rfl

theorem Collects.handle {f : Fragment} (hc : r.Collects S src h) (hf : f ∈ S.fragments)
    (cfg : ReceiverConfig) (now : ℤ) (memalign : Bool) :
    (r.handle cfg now memalign src f).2 = (if f ∈ h then .duplicateFragment else .ok) ∧
      (r.handle cfg now memalign src f).1.Collects S src (if f ∈ h then h else h ++ [f]) ∧
      (r.handle cfg now memalign src f).1.frameNo = r.frameNo ∧
      ((r.handle cfg now memalign src f).1.bucketOf S.mSuperFrameNo).mDeliveryOrder =
        (r.bucketOf S.mSuperFrameNo).mDeliveryOrder := by
  have hno := S.superFrameNo f hf
  have hacceptable := S.acceptable f hf
  have hcore : (r.bucketOf S.mSuperFrameNo).core.mSourceId = src := hc.mSourceId
  have htaken : f.slot ∈ (r.bucketOf S.mSuperFrameNo).mReceivedFragments ↔ f ∈ h :=
    ⟨hc.built.mem_of_slot hc.subset hf, fun hmem => hc.built.slots.mem_received.mpr ⟨f, hmem, rfl⟩⟩
  have hclash : f.clash src (r.bucketOf S.mSuperFrameNo) =
      if f.slot ∈ (r.bucketOf S.mSuperFrameNo).mReceivedFragments then some .duplicateFragment
      else none := hcore ▸ hc.built.clash_eq hc.subset hf
  rw [handle_eq, hno, verdict_of_active hf hc.active _ hclash]
  by_cases hmem : f ∈ h
  · rw [if_pos (htaken.mpr hmem), if_pos hmem, if_pos hmem]
    exact ⟨rfl, ⟨hc.active, hc.built, hc.subset, hc.mSourceId⟩, rfl, rfl⟩
  · have hfree := htaken.not.mpr hmem
    rw [if_neg hfree, if_neg hmem, if_neg hmem]
    have hhas := r.act_fill cfg now memalign src f
    obtain ⟨hact, -, horder, -, -, -, hsource, -, -⟩ :=
      (r.bucketOf S.mSuperFrameNo).fill_fields f
    have hfits := Fragment.fits_of_clash (hclash.trans (if_neg hfree))
    have hbucket : (r.act cfg now memalign src f .fill).1.bucketOf S.mSuperFrameNo =
        (r.bucketOf S.mSuperFrameNo).fill f := by
      rw [bucketOf, hhas.mpBuckets, hno, Function.update_self]
    refine ⟨rfl, ⟨?_, ?_, fun g hg => ?_, ?_⟩, hhas.frameNo, ?_⟩
    · rw [hbucket, hact, hc.active]
    · rw [hbucket, Bucket.core_fill]
      exact .filled hc.built hacceptable.admissible hacceptable.check (Bucket.fits_core hfits)
    · rcases List.mem_append.mp hg with hg | hg
      · exact hc.subset g hg
      · exact List.mem_singleton.mp hg ▸ hf
    · rw [hbucket, hsource, hc.mSourceId]
    · rw [hbucket, horder]

theorem Finished.handle {f : Fragment} (hd : r.Finished S.mSuperFrameNo) (hf : f ∈ S.fragments)
    (cfg : ReceiverConfig) (now : ℤ) (memalign : Bool) (src : UInt8) :
    (r.handle cfg now memalign src f).1.Finished S.mSuperFrameNo := by
  have hno := S.superFrameNo f hf
  rw [handle_eq, hno, verdict_of_inactive hf src hd.inactive, if_pos hd.current.unwrapped, act, hno]
  have hsame := hd.current.recalculate
  refine ⟨hd.inactive, ?_, ?_, ?_⟩
  · exact (congrArg FrameNoTracking.mFirstFrame hsame).trans hd.current.mFirstFrame
  · exact (congrArg FrameNoTracking.mOldFrameNo hsame).trans hd.current.mOldFrameNo
  · exact (congrArg FrameNoTracking.mFrameNoRecalc hsame).trans hd.current.mFrameNoRecalc

/-! ### Packets -/

/-- The fragments of the list have been handed over, and no pass has found the
bucket complete. -/
inductive Underway (r : Receiver B) (S : Superframe) (src : UInt8) : List Fragment → Prop
  | awaits (awaits : r.Awaits S.mSuperFrameNo) : r.Underway S src []
  | collects {h fs : List Fragment} (collects : r.Collects S src h)
      (current : r.Current S.mSuperFrameNo) (mem : ∀ f ∈ fs, f ∈ h) : r.Underway S src fs

variable {fs : List Fragment}

theorem Underway.of_same {r' : Receiver B} (hu : r.Underway S src fs)
    (hsame : r.SameButStatistics r') : r'.Underway S src fs := by
  obtain ⟨stats, rfl⟩ := hsame
  cases hu with
  | awaits ha => exact .awaits ⟨ha.inactive, ha.order_ne⟩
  | collects hc hcur hmem =>
      exact .collects ⟨hc.active, hc.built, hc.subset, hc.mSourceId⟩
        ⟨hcur.mFirstFrame, hcur.mOldFrameNo, hcur.mFrameNoRecalc⟩ hmem

theorem Finished.of_same {r' : Receiver B} {n : UInt16} (hd : r.Finished n)
    (hsame : r.SameButStatistics r') : r'.Finished n := by
  obtain ⟨stats, rfl⟩ := hsame
  exact ⟨hd.inactive, hd.current.mFirstFrame, hd.current.mOldFrameNo, hd.current.mFrameNoRecalc⟩

theorem Underway.handle {f : Fragment} (hu : r.Underway S src fs) (hf : f ∈ S.fragments)
    (cfg : ReceiverConfig) (now : ℤ) :
    ¬ (r.handle cfg now true src f).2.endsBundle ∧
      (r.handle cfg now true src f).1.Underway S src (fs ++ [f]) := by
  cases hu with
  | awaits ha =>
      obtain ⟨hres, hcollects, hcurrent⟩ := ha.handle hf cfg now src
      refine ⟨?_, .collects hcollects hcurrent fun g hg => hg⟩
      rw [hres]
      exact fun hends => hends.1 rfl
  | @collects h _ hc hcur hmem =>
      obtain ⟨hres, hcollects, hno, horder⟩ := hc.handle hf cfg now true
      refine ⟨?_, .collects hcollects ⟨?_, ?_, ?_⟩ fun g hg => ?_⟩
      · rw [hres]
        split_ifs
        · exact fun hends => hends.2 rfl
        · exact fun hends => hends.1 rfl
      · rw [hno, hcur.mFirstFrame]
      · rw [hno, hcur.mOldFrameNo]
      · rw [hno, horder, hcur.mFrameNoRecalc]
      · have hg' : g ∈ h ∨ g = f :=
          (List.mem_append.mp hg).imp (hmem g) List.mem_singleton.mp
        split_ifs with hin
        · exact hg'.elim id fun heq => heq ▸ hin
        · exact List.mem_append.mpr (hg'.imp id List.mem_singleton.mpr)

/-- Members are handled one after another, and none of them ends the bundle. -/
theorem Underway.handleMembers {members : List (List UInt8)} (cfg : ReceiverConfig)
    {env : Surroundings} (halloc : ∀ k, env.memalign k = true)
    (hmembers : ∀ m ∈ members, .type1 m ∈ S.fragments) (lI : ℕ) (hu : r.Underway S src fs) :
    (handleMembers (handleMember cfg env src) lI members r).Underway S src
      (fs ++ members.map .type1) := by
  induction members generalizing lI r fs with
  | nil =>
      rw [List.map_nil, List.append_nil]
      exact hu
  | cons m members ih =>
      have hstep := (hu.handle (hmembers m List.mem_cons_self) cfg (env.nowUs lI)).2
      rw [← halloc lI] at hstep
      have hrest := ih (fun m hm => hmembers m (List.mem_cons_of_mem _ hm)) (lI + 1) hstep
      rw [List.append_assoc] at hrest
      exact hrest

theorem Finished.handleMembers {members : List (List UInt8)} (cfg : ReceiverConfig)
    (env : Surroundings) (src : UInt8) (hmembers : ∀ m ∈ members, .type1 m ∈ S.fragments) (lI : ℕ)
    (hd : r.Finished S.mSuperFrameNo) :
    (handleMembers (handleMember cfg env src) lI members r).Finished S.mSuperFrameNo := by
  induction members generalizing lI r with
  | nil => exact hd
  | cons m members ih =>
      exact ih (fun m hm => hmembers m (List.mem_cons_of_mem _ hm)) (lI + 1)
        (hd.handle (hmembers m List.mem_cons_self) cfg (env.nowUs lI) (env.memalign lI) src)

theorem dispatch_bundle (cfg : ReceiverConfig) (r : Receiver B) (env : Surroundings)
    (o : Outgoing) (members : List (List UInt8)) (src : UInt8) :
    r.dispatch cfg env (Sender.bundle o members).data src =
      r.handleType4 cfg env (Sender.bundle o members).data src := by
  have htype : getFrameType (byteAt (Sender.bundle o members).data 0) = some .type4 :=
    isBundle_bundle o members
  rw [dispatch, if_neg (by rintro ⟨⟩), htype]

/-- The members of a bundle of the superframe that the loop gets to. -/
theorem dispatch_members (cfg : ReceiverConfig) (r : Receiver B) (env : Surroundings)
    {o : Outgoing} {members : List (List UInt8)} (src : UInt8) (pos : 0 < members.length)
    (le : members.length ≤ 255)
    (mem : ∀ m ∈ members, .type1 m ∈ S.fragments ∧ Fragment.ofPacket m = some (.type1 m)) :
    ∃ handled rest, members = handled ++ rest ∧
      StopsAt (handleMember cfg env src) 0 handled rest r ∧
      (handleMembers (handleMember cfg env src) 0 handled r).SameButStatistics
        (r.dispatch cfg env (Sender.bundle o members).data src).1 := by
  rw [dispatch_bundle]
  exact handleType4_members cfg r env src _ ⟨pos, le⟩ (Nat.le_add_right _ S.mFragmentSize)
    fun m hm => ⟨Superframe.length_type1_packet (mem m hm).1, getFrameType_of_ofPacket (mem m hm).2⟩

theorem Underway.dispatch {data : List UInt8} (hu : r.Underway S src fs) (hdata : S.Carried data)
    (cfg : ReceiverConfig) {env : Surroundings} (halloc : ∀ k, env.memalign k = true) :
    (r.dispatch cfg env data src).1.Underway S src (fs ++ fragmentsIn data) := by
  cases hdata with
  | alone mem packet =>
      rw [dispatch_of_ofPacket cfg r env src packet, halloc, fragmentsIn_of_ofPacket packet]
      exact (hu.handle mem cfg (env.nowUs 0)).2
  | @bundle o members pos le mem =>
      obtain ⟨handled, rest, rfl, hstop, hsame⟩ :=
        dispatch_members cfg r env (o := o) src pos le mem
      have hmem : ∀ m ∈ handled, .type1 m ∈ S.fragments :=
        fun m hm => (mem m (List.mem_append_left _ hm)).1
      have hrest : rest = [] := by
        by_contra hne
        obtain ⟨front, member, rfl, hends⟩ := hstop.last hne
        have hfront := hu.handleMembers cfg halloc
          (fun m hm => hmem m (List.mem_append_left _ hm)) 0
        have hmember := (hfront.handle (hmem member (by simp)) cfg (env.nowUs (0 + front.length))).1
        rw [← halloc (0 + front.length)] at hmember
        exact hmember hends
      subst hrest
      rw [List.append_nil] at hsame
      rw [Superframe.fragmentsIn_bundle pos le mem, List.append_nil]
      exact (hu.handleMembers cfg halloc hmem 0).of_same hsame

theorem Finished.dispatch {data : List UInt8} (hd : r.Finished S.mSuperFrameNo)
    (hdata : S.Carried data) (cfg : ReceiverConfig) (env : Surroundings) (src : UInt8) :
    (r.dispatch cfg env data src).1.Finished S.mSuperFrameNo := by
  cases hdata with
  | alone mem packet =>
      rw [dispatch_of_ofPacket cfg r env src packet]
      exact hd.handle mem cfg (env.nowUs 0) (env.memalign 0) src
  | @bundle o members pos le mem =>
      obtain ⟨handled, rest, rfl, -, hsame⟩ := dispatch_members cfg r env (o := o) src pos le mem
      exact (hd.handleMembers cfg env src (fun m hm =>
        (mem m (List.mem_append_left _ hm)).1) 0).of_same hsame

end Receiver

end ElasticFrame
