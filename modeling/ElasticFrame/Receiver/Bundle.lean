import ElasticFrame.Receiver.Step

/-!
A bundle against the plain sequence of its members.

`handleType4` hands its members to `handleType1` one after another and stops
at the first whose result is neither `ok` nor `duplicateFragment`. So it does
what the plain sequence does up to and including that member, and the members
behind it are not handled.
-/

namespace ElasticFrame

/-- The results that end the member loop of a bundle. -/
def Result.endsBundle (res : Result) : Prop := res ≠ .ok ∧ res ≠ .duplicateFragment

/-- Members handled one after another, whatever their results; member `lI`
is the first of the list. -/
def handleMembers {σ : Type*} (handle : σ → ℕ → List UInt8 → σ × Result) :
    (lI : ℕ) → List (List UInt8) → σ → σ
  | _, [], s => s
  | lI, member :: members, s =>
      handleMembers handle (lI + 1) members (handle s lI member).1

/-- The result of a member handled after the members `front`. -/
def memberResult {σ : Type*} (handle : σ → ℕ → List UInt8 → σ × Result) (lI : ℕ)
    (front : List (List UInt8)) (member : List UInt8) (s : σ) : Result :=
  (handle (handleMembers handle lI front s) (lI + front.length) member).2

theorem memberResult_cons {σ : Type*} (handle : σ → ℕ → List UInt8 → σ × Result) (lI : ℕ)
    (m : List UInt8) (front : List (List UInt8)) (member : List UInt8) (s : σ) :
    memberResult handle lI (m :: front) member s =
      memberResult handle (lI + 1) front member (handle s lI m).1 := by
  simp only [memberResult, handleMembers, List.length_cons]
  congr 2
  omega

theorem handleMembers_append {σ : Type*} (handle : σ → ℕ → List UInt8 → σ × Result) (lI : ℕ)
    (front back : List (List UInt8)) (s : σ) :
    handleMembers handle lI (front ++ back) s =
      handleMembers handle (lI + front.length) back (handleMembers handle lI front s) := by
  induction front generalizing lI s with
  | nil => rfl
  | cons m front ih =>
      rw [List.cons_append, handleMembers, ih, List.length_cons, Nat.add_right_comm, Nat.add_assoc]
      rfl

theorem memberResult_append {σ : Type*} (handle : σ → ℕ → List UInt8 → σ × Result) (lI : ℕ)
    (front mid : List (List UInt8)) (member : List UInt8) (s : σ) :
    memberResult handle lI (front ++ mid) member s =
      memberResult handle (lI + front.length) mid member (handleMembers handle lI front s) := by
  rw [memberResult, memberResult, handleMembers_append, List.length_append, Nat.add_assoc]

/-- When the members are handled one after another, one behind a member that
ends the loop is answered `res`. -/
def AnsweredBehind {σ : Type*} (handle : σ → ℕ → List UInt8 → σ × Result)
    (members : List (List UInt8)) (s : σ) (res : Result) : Prop :=
  ∃ front ended mid late back, members = front ++ ended :: (mid ++ late :: back) ∧
    (memberResult handle 0 front ended s).endsBundle ∧
    memberResult handle 0 (front ++ ended :: mid) late s = res

/-- `handled` is the part of the members the loop gets to: no member before
its last one ends the loop, and the last one does unless nothing is left. -/
structure StopsAt {σ : Type*} (handle : σ → ℕ → List UInt8 → σ × Result) (lI : ℕ)
    (handled rest : List (List UInt8)) (s : σ) : Prop where
  before : ∀ front member back, handled = front ++ member :: back → back ≠ [] →
    ¬ (memberResult handle lI front member s).endsBundle
  last : rest ≠ [] → ∃ front member, handled = front ++ [member] ∧
    (memberResult handle lI front member s).endsBundle

/-- What is behind a member that ends the loop is behind the part the loop gets
to. -/
theorem StopsAt.rest_of_ends {σ : Type*} {handle : σ → ℕ → List UInt8 → σ × Result} {lI : ℕ}
    {handled rest front mid back : List (List UInt8)} {ended late : List UInt8} {s : σ}
    (h : StopsAt handle lI handled rest s)
    (hall : handled ++ rest = front ++ ended :: (mid ++ late :: back))
    (hends : (memberResult handle lI front ended s).endsBundle) :
    ∃ skipped, front ++ ended :: mid = handled ++ skipped ∧ rest = skipped ++ late :: back := by
  have hshort : handled.length ≤ (front ++ ended :: mid).length := by
    by_contra hlong
    rw [not_le, List.length_append, List.length_cons] at hlong
    have hfront : front ++ [ended] <+: handled ++ rest := by
      rw [hall]
      exact ⟨mid ++ late :: back, by simp⟩
    obtain ⟨more, hmore⟩ : front ++ [ended] <+: handled := by
      apply List.prefix_of_prefix_length_le hfront (List.prefix_append _ _)
      rw [List.length_append, List.length_singleton]
      omega
    refine h.before front ended more (by rw [← hmore, List.append_assoc]; rfl) ?_ hends
    rintro rfl
    rw [List.append_nil] at hmore
    rw [← hmore, List.length_append, List.length_singleton] at hlong
    omega
  have hsame : (front ++ ended :: mid) ++ late :: back = handled ++ rest := by
    rw [hall, List.append_assoc, List.cons_append]
  obtain ⟨skipped, hskipped⟩ := List.prefix_of_prefix_length_le
    (List.prefix_append handled rest) (hsame ▸ List.prefix_append _ _) hshort
  refine ⟨skipped, hskipped.symm, ?_⟩
  rw [← hskipped, List.append_assoc] at hsame
  exact (List.append_cancel_left hsame).symm

theorem bundleLoop_eq_handleMembers {σ : Type*} (handle : σ → ℕ → List UInt8 → σ × Result)
    (lFrameSize : ℕ) (hpos : 0 < lFrameSize) (members : List (List UInt8))
    (hmembers : ∀ m ∈ members,
      m.length = lFrameSize ∧ getFrameType (byteAt m 0) = some .type1)
    (done : List UInt8) (lI : ℕ) (s : σ) :
    ∃ handled rest, members = handled ++ rest ∧
      (bundleLoop handle (done ++ members.flatten) lFrameSize members.length lI
        done.length s).1 = handleMembers handle lI handled s ∧
      StopsAt handle lI handled rest s := by
  induction members generalizing done lI s with
  | nil =>
      refine ⟨[], [], rfl, rfl, fun front member back h => ?_, fun h => absurd rfl h⟩
      exact absurd h (by simp)
  | cons m members ih =>
      obtain ⟨hlen, htype⟩ := hmembers m (by simp)
      have hbyte : byteAt (done ++ (m :: members).flatten) done.length = byteAt m 0 := by
        rw [List.flatten_cons]
        cases m with
        | nil => simp at hlen; omega
        | cons x m => exact byteAt_append done _ x
      have hslice : ((done ++ (m :: members).flatten).drop done.length).take lFrameSize = m := by
        rw [List.drop_left, List.flatten_cons, ← hlen, List.take_left]
      rw [List.length_cons, bundleLoop, hbyte, htype, if_neg (by simp)]
      simp only [hslice]
      by_cases hend : (handle s lI m).2 ≠ .ok ∧ (handle s lI m).2 ≠ .duplicateFragment
      · refine ⟨[m], members, rfl, by rw [if_pos hend]; rfl, fun front member back h hback => ?_,
          fun _ => ⟨[], m, rfl, hend⟩⟩
        have hlength := congrArg List.length h
        simp only [List.length_append, List.length_cons, List.length_nil] at hlength
        exact absurd (List.length_eq_zero_iff.mp (by omega)) hback
      · obtain ⟨handled, rest, hsplit, hstate, hstop⟩ :=
          ih (fun m' hm' => hmembers m' (by simp [hm'])) (done ++ m) (lI + 1) (handle s lI m).1
        have hassoc : done ++ (m :: members).flatten = done ++ m ++ members.flatten := by simp
        have hoffset : (done ++ m).length = done.length + lFrameSize := by simp [hlen]
        refine ⟨m :: handled, rest, by rw [hsplit, List.cons_append], ?_,
          fun front member back h hback => ?_, fun hrest => ?_⟩
        · rw [if_neg hend, hassoc, ← hoffset]
          exact hstate
        · cases front with
          | nil =>
              obtain ⟨rfl, -⟩ := List.cons.inj h
              exact hend
          | cons x front =>
              obtain ⟨rfl, htail⟩ := List.cons.inj h
              rw [memberResult_cons]
              exact hstop.before front member back htail hback
        · obtain ⟨front, member, hlast, hends⟩ := hstop.last hrest
          exact ⟨m :: front, member, by rw [hlast, List.cons_append], by rwa [memberResult_cons]⟩

namespace Receiver

variable {B : BufferSize}

/-- `handleType1` on member `lI` of a bundle. -/
def handleMember (cfg : ReceiverConfig) (env : Surroundings) (aSourceId : UInt8)
    (r : Receiver B) (lI : ℕ) (member : List UInt8) : Receiver B × Result :=
  r.handleType1 cfg (env.nowUs lI) (env.memalign lI) member aSourceId

def SameButStatistics (r r' : Receiver B) : Prop :=
  ∃ stats, r' = { r with mStatistics := stats }

theorem SameButStatistics.handle {r r' : Receiver B} (h : r.SameButStatistics r')
    (cfg : ReceiverConfig) (now : ℤ) (memalign : Bool) (src : UInt8) (f : Fragment) :
    (r.handle cfg now memalign src f).1.SameButStatistics
        (r'.handle cfg now memalign src f).1 ∧
      (r.handle cfg now memalign src f).2 = (r'.handle cfg now memalign src f).2 := by
  obtain ⟨stats, rfl⟩ := h
  rw [handle_eq, handle_eq]
  change _ ∧ (r.act cfg now memalign src f _).2 =
    (act cfg { r with mStatistics := stats } now memalign src f (f.verdict src
      (r.bucketOf f.superFrameNo) (r.unwrapped f.superFrameNo))).2
  change (r.act cfg now memalign src f _).1.SameButStatistics
    (act cfg { r with mStatistics := stats } now memalign src f (f.verdict src
      (r.bucketOf f.superFrameNo) (r.unwrapped f.superFrameNo))).1 ∧ _
  cases f.verdict src (r.bucketOf f.superFrameNo) (r.unwrapped f.superFrameNo) with
  | short => exact ⟨⟨_, rfl⟩, rfl⟩
  | reject res => exact ⟨⟨_, rfl⟩, rfl⟩
  | duplicate => exact ⟨⟨_, rfl⟩, rfl⟩
  | stale res => exact ⟨⟨_, rfl⟩, rfl⟩
  | «open» =>
      simp only [act, openBucket]
      split_ifs
      · cases f <;> exact ⟨⟨_, rfl⟩, rfl⟩
      · cases f <;> exact ⟨⟨_, rfl⟩, rfl⟩
  | fill => cases f <;> exact ⟨⟨_, rfl⟩, rfl⟩

theorem sameButStatistics_handleMembers {r r' : Receiver B} (h : r.SameButStatistics r')
    (cfg : ReceiverConfig) (env : Surroundings) (src : UInt8) (lI : ℕ)
    (members : List (List UInt8)) :
    (handleMembers (handleMember cfg env src) lI members r).SameButStatistics
      (handleMembers (handleMember cfg env src) lI members r') := by
  induction members generalizing lI r r' with
  | nil => exact h
  | cons m members ih =>
      exact ih (h.handle cfg (env.nowUs lI) (env.memalign lI) src (.type1 m)).1 (lI + 1)

theorem memberResult_eq {r r' : Receiver B} (h : r.SameButStatistics r')
    (cfg : ReceiverConfig) (env : Surroundings) (src : UInt8) (lI : ℕ)
    (front : List (List UInt8)) (member : List UInt8) :
    memberResult (handleMember cfg env src) lI front member r =
      memberResult (handleMember cfg env src) lI front member r' :=
  ((sameButStatistics_handleMembers h cfg env src lI front).handle cfg
    (env.nowUs (lI + front.length)) (env.memalign (lI + front.length)) src (.type1 member)).2

/-- A bundle of Type1 frames of one size is handled as the members it gets to
are, up to the statistics. -/
theorem handleType4_members (cfg : ReceiverConfig) (r : Receiver B) (env : Surroundings)
    (aSourceId lFrameType : UInt8) {members : List (List UInt8)} {lFrameSize : ℕ}
    (hcount : 1 ≤ members.length ∧ members.length ≤ 255)
    (hsize : FrameType1.sizeof ≤ lFrameSize)
    (hmembers : ∀ m ∈ members,
      m.length = lFrameSize ∧ getFrameType (byteAt m 0) = some .type1) :
    let lHeader : FrameType4 :=
      { mFrameType := lFrameType, mFrameCount := UInt8.ofNat members.length }
    ∃ handled rest, members = handled ++ rest ∧
      StopsAt (handleMember cfg env aSourceId) 0 handled rest r ∧
      (handleMembers (handleMember cfg env aSourceId) 0 handled r).SameButStatistics
        (r.handleType4 cfg env (lHeader.bytes ++ members.flatten) aSourceId).1 := by
  intro lHeader
  have hflatten : members.flatten.length = members.length * lFrameSize := by
    rw [List.length_flatten, List.map_congr_left fun m hm => (hmembers m hm).1]
    simp
  have hlength : (lHeader.bytes ++ members.flatten).length =
      FrameType4.sizeof + members.length * lFrameSize := by
    rw [List.length_append, hflatten]
    rfl
  have hn : (FrameType4.read (lHeader.bytes ++ members.flatten)).mFrameCount.toNat =
      members.length := by
    change (UInt8.ofNat members.length).toNat = members.length
    rw [UInt8.toNat_ofNat']
    omega
  have hpos : 0 < members.length := hcount.1
  have hloop : (r.handleType4 cfg env (lHeader.bytes ++ members.flatten) aSourceId).1 =
      (bundleLoop (handleMember cfg env aSourceId) (lHeader.bytes ++ members.flatten) lFrameSize
        members.length 0 lHeader.bytes.length r.countBundle).1 := by
    simp only [handleType4, hn, hlength, Nat.add_sub_cancel_left,
      Nat.mul_mod_right, Nat.mul_div_cancel_left _ hpos]
    rw [if_neg (by omega), if_neg (by omega), if_neg (by simp), if_neg (by omega)]
    rfl
  obtain ⟨handled, rest, hsplit, hstate, hstop⟩ := bundleLoop_eq_handleMembers
    (handleMember cfg env aSourceId) lFrameSize (lt_of_lt_of_le (by decide) hsize) members hmembers
    lHeader.bytes 0 r.countBundle
  have hsame : r.SameButStatistics r.countBundle := ⟨_, rfl⟩
  refine ⟨handled, rest, hsplit, ⟨fun front member back h hback => ?_, fun hrest => ?_⟩, ?_⟩
  · rw [memberResult_eq hsame]
    exact hstop.before front member back h hback
  · obtain ⟨front, member, hlast, hends⟩ := hstop.last hrest
    exact ⟨front, member, hlast, by rwa [memberResult_eq hsame]⟩
  · rw [hloop, hstate]
    exact sameButStatistics_handleMembers hsame cfg env aSourceId 0 handled

/-- The buckets with their frames, the map and the stream cache agree. -/
structure SameContents (r r' : Receiver B) : Prop where
  mpBuckets : r.mpBuckets = r'.mpBuckets
  mBucketMap : r.mBucketMap = r'.mBucketMap
  mStreams : r.mStreams = r'.mStreams

def fragmentsHeld (r : Receiver B) : ℕ :=
  ∑ i, if (r.mpBuckets i).mActive = true then (r.mpBuckets i).mReceivedFragments.card else 0

theorem fragmentsHeld_of_mpBuckets {r r' : Receiver B} (h : r'.mpBuckets = r.mpBuckets) :
    r'.fragmentsHeld = r.fragmentsHeld := by
  rw [fragmentsHeld, h, fragmentsHeld]

theorem fragmentsHeld_update {r r' : Receiver B} {i : B.Index} {b : Bucket}
    (h : r'.mpBuckets = Function.update r.mpBuckets i b) (new : ℕ)
    (hb : (if b.mActive = true then b.mReceivedFragments.card else 0) =
      (if (r.mpBuckets i).mActive = true then (r.mpBuckets i).mReceivedFragments.card else 0) +
        new) :
    r'.fragmentsHeld = r.fragmentsHeld + new := by
  rw [fragmentsHeld, fragmentsHeld, h, ← Finset.add_sum_erase _ _ (Finset.mem_univ i),
    ← Finset.add_sum_erase (a := i) _ _ (Finset.mem_univ i), Function.update_self, hb,
    add_right_comm]
  congr 2
  apply Finset.sum_congr rfl
  intro j hj
  rw [Function.update_of_ne (Finset.ne_of_mem_erase hj)]

/-- A fragment that is taken is one more, and no other changes the number. -/
theorem fragmentsHeld_handle (cfg : ReceiverConfig) (r : Receiver B) (now : ℤ) (memalign : Bool)
    (src : UInt8) (f : Fragment) :
    (r.handle cfg now memalign src f).1.fragmentsHeld = r.fragmentsHeld +
      if (r.handle cfg now memalign src f).2 = .ok then 1 else 0 := by
  have hstep := r.handled cfg now memalign src f
  generalize (r.handle cfg now memalign src f).1 = r',
    (r.handle cfg now memalign src f).2 = res at hstep
  cases hstep with
  | refused has hcode =>
      have hne : res ≠ .ok := by
        rcases hcode with ⟨rfl, -⟩ | hcode
        · exact Result.noConfusion
        · rintro rfl
          exact absurd hcode (by decide : ¬ Result.ok.code < 0)
      rw [if_neg hne, fragmentsHeld_of_mpBuckets has.mpBuckets, add_zero]
  | stale has _ _ why =>
      have hne : res ≠ .ok := by
        rcases why with ⟨-, rfl⟩ | ⟨-, -, rfl⟩ <;> exact Result.noConfusion
      rw [if_neg hne, fragmentsHeld_of_mpBuckets has.mpBuckets, add_zero]
  | failed opens null has =>
      have hinactive : (r.mpBuckets (B.index f.superFrameNo)).mActive = false := opens.inactive
      apply fragmentsHeld_update has.mpBuckets
      rw [hinactive]
      rfl
  | opened opens alloc has =>
      have hinactive : (r.mpBuckets (B.index f.superFrameNo)).mActive = false := opens.inactive
      apply fragmentsHeld_update has.mpBuckets
      rw [hinactive]
      rfl
  | filled fills has =>
      have hactive : (r.mpBuckets (B.index f.superFrameNo)).mActive = true := fills.active
      have hfill : ((r.bucketOf f.superFrameNo).fill f).mActive =
            (r.bucketOf f.superFrameNo).mActive ∧
          ((r.bucketOf f.superFrameNo).fill f).mReceivedFragments =
            insert f.slot (r.bucketOf f.superFrameNo).mReceivedFragments := by
        cases f <;> exact ⟨rfl, rfl⟩
      apply fragmentsHeld_update has.mpBuckets
      rw [hfill.1, hfill.2, Finset.card_insert_of_notMem fills.fits.slot, bucketOf,
        if_pos hactive, if_pos hactive, if_pos rfl]

/-- A fragment that is not taken leaves the contents alone, if its allocation
does not fail. -/
theorem sameContents_handle {cfg : ReceiverConfig} {r : Receiver B} {now : ℤ} {memalign : Bool}
    {src : UInt8} {f : Fragment} (hok : (r.handle cfg now memalign src f).2 ≠ .ok)
    (hfail : (r.handle cfg now memalign src f).2 ≠ .memoryAllocationError) :
    r.SameContents (r.handle cfg now memalign src f).1 := by
  have hstep := r.handled cfg now memalign src f
  generalize (r.handle cfg now memalign src f).1 = r',
    (r.handle cfg now memalign src f).2 = res at hstep hok hfail
  cases hstep with
  | refused has _ => exact ⟨has.mpBuckets.symm, has.mBucketMap.symm, has.mStreams.symm⟩
  | stale has _ _ _ => exact ⟨has.mpBuckets.symm, has.mBucketMap.symm, has.mStreams.symm⟩
  | failed => exact absurd rfl hfail
  | opened => exact absurd rfl hok
  | filled => exact absurd rfl hok

theorem fragmentsHeld_handleMembers_le (cfg : ReceiverConfig) (env : Surroundings) (src : UInt8)
    (lI : ℕ) (members : List (List UInt8)) (r : Receiver B) :
    r.fragmentsHeld ≤ (handleMembers (handleMember cfg env src) lI members r).fragmentsHeld := by
  induction members generalizing lI r with
  | nil => exact le_refl _
  | cons m members ih =>
      refine le_trans ?_ (ih (lI + 1) _)
      have hstep := fragmentsHeld_handle cfg r (env.nowUs lI) (env.memalign lI) src (.type1 m)
      exact hstep ▸ Nat.le_add_right _ _

theorem fragmentsHeld_member (cfg : ReceiverConfig) (env : Surroundings) (src : UInt8) (lI : ℕ)
    (mid : List (List UInt8)) (late : List UInt8) (back : List (List UInt8)) (r : Receiver B) :
    (r.fragmentsHeld +
        if memberResult (handleMember cfg env src) lI mid late r = .ok then 1 else 0) ≤
      (handleMembers (handleMember cfg env src) lI (mid ++ late :: back) r).fragmentsHeld := by
  have hmid := fragmentsHeld_handleMembers_le cfg env src lI mid r
  have hlate := fragmentsHeld_handle cfg (handleMembers (handleMember cfg env src) lI mid r)
    (env.nowUs (lI + mid.length)) (env.memalign (lI + mid.length)) src (.type1 late)
  have hback := fragmentsHeld_handleMembers_le cfg env src (lI + mid.length + 1) back
    (handleMember cfg env src (handleMembers (handleMember cfg env src) lI mid r)
      (lI + mid.length) late).1
  rw [handleMembers_append]
  refine le_trans ?_ hback
  change _ ≤ ((handleMembers (handleMember cfg env src) lI mid r).handle cfg
    (env.nowUs (lI + mid.length)) (env.memalign (lI + mid.length)) src
      (.type1 late)).1.fragmentsHeld
  rw [hlate]
  exact Nat.add_le_add_right hmid _

/-- Members none of which is taken or fails in its allocation leave the contents
alone. -/
theorem sameContents_handleMembers (cfg : ReceiverConfig) (env : Surroundings) (src : UInt8)
    (lI : ℕ) (members : List (List UInt8)) (r : Receiver B)
    (h : ∀ mid late back, members = mid ++ late :: back →
      memberResult (handleMember cfg env src) lI mid late r ≠ .ok ∧
        memberResult (handleMember cfg env src) lI mid late r ≠ .memoryAllocationError) :
    r.SameContents (handleMembers (handleMember cfg env src) lI members r) := by
  induction members generalizing lI r with
  | nil => exact ⟨rfl, rfl, rfl⟩
  | cons m members ih =>
      obtain ⟨hok, hfail⟩ := h [] m members rfl
      have hfirst : r.SameContents (handleMember cfg env src r lI m).1 :=
        sameContents_handle (f := .type1 m) hok hfail
      have hrest := ih (lI + 1) (handleMember cfg env src r lI m).1 fun mid late back heq => by
        have hlate := h (m :: mid) late back (by rw [heq, List.cons_append])
        rwa [memberResult_cons] at hlate
      exact ⟨hfirst.mpBuckets.trans hrest.mpBuckets, hfirst.mBucketMap.trans hrest.mBucketMap,
        hfirst.mStreams.trans hrest.mStreams⟩

/-- A bundle of Type1 frames of one size does to the buckets, the map, the
frames in the buckets, the stream cache and the frame number counters what
`handleType1` does on the members it gets to. This is what `handleType1` does on
all of them only if none of the others would have been taken, and if none of
these would have failed in its allocation either. -/
theorem handleType4_eq_members (cfg : ReceiverConfig) (r : Receiver B) (env : Surroundings)
    (aSourceId lFrameType : UInt8) (members : List (List UInt8)) (lFrameSize : ℕ)
    (hcount : 1 ≤ members.length ∧ members.length ≤ 255)
    (hsize : FrameType1.sizeof ≤ lFrameSize)
    (hmembers : ∀ m ∈ members,
      m.length = lFrameSize ∧ getFrameType (byteAt m 0) = some .type1) :
    let lHeader : FrameType4 :=
      { mFrameType := lFrameType, mFrameCount := UInt8.ofNat members.length }
    let handle := handleMember cfg env aSourceId
    let bundled := (r.handleType4 cfg env (lHeader.bytes ++ members.flatten) aSourceId).1
    (∃ handled rest, members = handled ++ rest ∧ StopsAt handle 0 handled rest r ∧
      bundled.Has (handleMembers handle 0 handled r).mpBuckets
        (handleMembers handle 0 handled r).mBucketMap
        (handleMembers handle 0 handled r).mStreams
        (handleMembers handle 0 handled r).frameNo) ∧
    (bundled.SameContents (handleMembers handle 0 members r) →
      ¬ AnsweredBehind handle members r .ok) ∧
    (¬ AnsweredBehind handle members r .ok →
      ¬ AnsweredBehind handle members r .memoryAllocationError →
        bundled.SameContents (handleMembers handle 0 members r)) := by
  intro lHeader handle bundled
  obtain ⟨handled, rest, hsplit, hstop, stats, hstats⟩ :=
    handleType4_members cfg r env aSourceId lFrameType hcount hsize hmembers
  have hhas : bundled.Has (handleMembers handle 0 handled r).mpBuckets
      (handleMembers handle 0 handled r).mBucketMap
      (handleMembers handle 0 handled r).mStreams
      (handleMembers handle 0 handled r).frameNo := by
    simp only [bundled]
    rw [hstats]
    exact ⟨rfl, rfl, rfl, rfl⟩
  refine ⟨⟨handled, rest, hsplit, hstop, hhas⟩, fun hsame => ?_, fun hok hfail => ?_⟩
  · -- a member that is taken leaves one fragment more in the buckets
    rintro ⟨front, ended, mid, late, back, hall, hends, hlate⟩
    obtain ⟨skipped, hskipped, hrest⟩ := hstop.rest_of_ends (hsplit.symm.trans hall) hends
    have hmore := fragmentsHeld_member cfg env aSourceId handled.length skipped late back
      (handleMembers handle 0 handled r)
    have hheld := fragmentsHeld_of_mpBuckets (hsame.mpBuckets.symm.trans hhas.mpBuckets)
    rw [hskipped, memberResult_append, Nat.zero_add] at hlate
    rw [if_pos hlate, ← hrest] at hmore
    rw [hsplit, handleMembers_append, Nat.zero_add] at hheld
    exact Nat.not_succ_le_self _ (le_trans hmore (le_of_eq hheld))
  · have hleft : (handleMembers handle 0 handled r).SameContents
        (handleMembers handle handled.length rest (handleMembers handle 0 handled r)) := by
      apply sameContents_handleMembers
      intro mid late back hrest
      have hne : rest ≠ [] := by
        rw [hrest]
        exact List.append_ne_nil_of_right_ne_nil _ (List.cons_ne_nil _ _)
      obtain ⟨front, ended, rfl, hends⟩ := hstop.last hne
      have hall : members = front ++ ended :: (mid ++ late :: back) := by
        rw [hsplit, hrest, List.append_assoc]
        rfl
      have hresult := memberResult_append handle 0 (front ++ [ended]) mid late r
      rw [Nat.zero_add, List.append_assoc] at hresult
      rw [← hresult]
      exact ⟨fun h => hok ⟨front, ended, mid, late, back, hall, hends, h⟩,
        fun h => hfail ⟨front, ended, mid, late, back, hall, hends, h⟩⟩
    rw [hsplit, handleMembers_append, Nat.zero_add]
    exact ⟨hhas.mpBuckets.trans hleft.mpBuckets, hhas.mBucketMap.trans hleft.mBucketMap,
      hhas.mStreams.trans hleft.mStreams⟩

/-- Two new superframes in one bundle. -/
theorem handleType4_eq_members_two :
    let members := [Sample.type1 0 [7], Sample.type1 1 [7]]
    let handle := handleMember {} Sample.env 0
    let r := Receiver.fresh .default
    let lHeader : FrameType4 := { mFrameType := 4, mFrameCount := 2 }
    let bundled := (r.handleType4 {} Sample.env (lHeader.bytes ++ members.flatten) 0).1
    (1 ≤ members.length ∧ members.length ≤ 255) ∧ FrameType1.sizeof ≤ 9 ∧
      (∀ m ∈ members, m.length = 9 ∧ getFrameType (byteAt m 0) = some .type1) ∧
      (∃ handled rest, members = handled ++ rest ∧ StopsAt handle 0 handled rest r ∧
        bundled.Has (handleMembers handle 0 handled r).mpBuckets
          (handleMembers handle 0 handled r).mBucketMap
          (handleMembers handle 0 handled r).mStreams
          (handleMembers handle 0 handled r).frameNo) ∧
      (bundled.SameContents (handleMembers handle 0 members r) →
        ¬ AnsweredBehind handle members r .ok) ∧
      (¬ AnsweredBehind handle members r .ok →
        ¬ AnsweredBehind handle members r .memoryAllocationError →
          bundled.SameContents (handleMembers handle 0 members r)) := by
  have hmembers : ∀ m ∈ [Sample.type1 0 [7], Sample.type1 1 [7]],
      m.length = 9 ∧ getFrameType (byteAt m 0) = some .type1 := by
    simp [Sample.type1_shape]
  exact ⟨by decide, by decide, hmembers, handleType4_eq_members {} (Receiver.fresh .default)
    Sample.env 0 4 _ 9 (by decide) (by decide) hmembers⟩

/-- Superframe 0 has been delivered. A bundle with a late copy of it and with
superframe 1 is given up at the late copy, while `handleType1` on both members
opens the bucket of superframe 1. -/
theorem handleType4_ne_members :
    let r := ((machine .default {}).run (Receiver.fresh .default)
      [.packet Sample.env (Sample.type1 0 [7]) 0, .pass Sample.clk]).1
    let members := [Sample.type1 0 [7], Sample.type1 1 [7]]
    let lHeader : FrameType4 := { mFrameType := 4, mFrameCount := 2 }
    (∀ m ∈ members, m.length = 9 ∧ getFrameType (byteAt m 0) = some .type1) ∧
      (r.handleType4 {} Sample.env (lHeader.bytes ++ members.flatten) 0).1.mpBuckets ≠
        (handleMembers (handleMember {} Sample.env 0) 0 members r).mpBuckets := by
  intro r members lHeader
  refine ⟨by simp [members, Sample.type1_shape], fun heq => ?_⟩
  have hbundle : ((r.handleType4 {} Sample.env
      (lHeader.bytes ++ members.flatten) 0).1.mpBuckets 1).mActive = false := by decide +kernel
  have hplain : ((handleMembers (handleMember {} Sample.env 0) 0
      members r).mpBuckets 1).mActive = true := by decide +kernel
  rw [heq, hplain] at hbundle
  exact absurd hbundle (by decide)

end Receiver

end ElasticFrame
