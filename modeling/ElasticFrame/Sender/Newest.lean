import ElasticFrame.Sender.Eviction
import ElasticFrame.Sender.Log

/-!
Whether a fragment that is sent again is the one its number stands for. A
fragment is retained under its superframe and fragment number, and the
numbers come round; the newer fragment replaces the older one there, unless
it is too large to be retained at all. Then the older one stays, and is what
a NACK for the newer one gets. A bundle can also carry an older fragment: it
is taken before the bundle makes the newer one, and sent after that.
-/

namespace ElasticFrame

open Lib

namespace Retention

variable {cfg : SenderConfig}

/-- A fragment that is made is the last under its key. -/
def making (made : UInt32 → Option (List UInt8)) : StoreCall → UInt32 → Option (List UInt8)
  | .retain _ _ aSuperFrameNo aFragmentNo _ apData =>
      Function.update made (makeRetentionKey aSuperFrameNo aFragmentNo) (some apData)
  | .evict _ | .request _ _ | .take => made

/-- The fragment made last under each key. -/
def newest (calls : List StoreCall) : UInt32 → Option (List UInt8) :=
  calls.foldl making fun _ => none

/-- What has been made last under each key, as a log goes on. -/
def record : Machine (UInt32 → Option (List UInt8)) Moment Packet where
  step made
    | .call c => (making made c, [])
    | .sent p _ => (made, [p])

/-- A packet that repeats the fragment of a key is, or begins with, the fragment
made last under that key. -/
def RepeatsNewest (made : UInt32 → Option (List UInt8)) : Moment → Prop
  | .call _ => True
  | .sent p again => ∀ lKey ∈ again, (frames p.data).head? = made lKey

/-- Whatever is sent again is the newest fragment of its key. -/
def SendsNewest (log : List Moment) : Prop := record.Along RepeatsNewest (fun _ => none) log

theorem run_record (made : UInt32 → Option (List UInt8)) (log : List Moment) :
    (record.run made log).1 = (log.filterMap Moment.storeCall).foldl making made := by
  induction log generalizing made with
  | nil => rfl
  | cons m log ih =>
      rw [Machine.run_cons]
      cases m with
      | call c => exact ih (making made c)
      | sent p again => exact ih made

/-- Two parts of a log, where the first one has the calls `calls`. -/
theorem along_record_append {made : UInt32 → Option (List UInt8)} {log log' : List Moment}
    {calls : List StoreCall} (hcalls : log.filterMap Moment.storeCall = calls)
    (h : record.Along RepeatsNewest made log)
    (h' : record.Along RepeatsNewest (calls.foldl making made) log') :
    record.Along RepeatsNewest made (log ++ log') := by
  rw [Machine.along_append, run_record, hcalls]
  exact ⟨h, h'⟩

theorem along_record_calls (made : UInt32 → Option (List UInt8)) (calls : List StoreCall) :
    record.Along RepeatsNewest made (calls.map .call) := by
  apply Machine.along_of_forall
  intro made m hm
  obtain ⟨c, -, rfl⟩ := List.mem_map.mp hm
  trivial

theorem foldl_making {made : UInt32 → Option (List UInt8)} {calls : List StoreCall} {lKey : UInt32}
    {data : List UInt8} (hcalls : ∀ call ∈ calls, call.Makes fun key apData =>
      key = lKey → apData = data) (h : made lKey = some data) :
    calls.foldl making made lKey = some data := by
  induction calls generalizing made with
  | nil => exact h
  | cons call calls ih =>
      apply ih fun call hcall => hcalls call (List.mem_cons_of_mem _ hcall)
      have hcall := hcalls call List.mem_cons_self
      cases call with
      | retain lNow mTimestampUs aSuperFrameNo aFragmentNo aStreamId apData =>
          rw [making, Function.update_apply]
          split_ifs with hkey
          · rw [hcall hkey.symm]
          · exact h
      | evict | request | take => exact h

/-! ### The retained fragments -/

/-- A fragment that is not retained leaves no older one behind under its key. -/
def LeavesNoOlder (cfg : SenderConfig) (s : Retention) : StoreCall → Prop
  | .retain _ _ aSuperFrameNo aFragmentNo _ apData =>
      ¬ Retains cfg apData →
        s.mRetentionBuffer[makeRetentionKey aSuperFrameNo aFragmentNo]? = none
  | _ => True

instance (s : Retention) : (call : StoreCall) → Decidable (LeavesNoOlder cfg s call)
  | .retain .. => inferInstanceAs (Decidable (_ → _))
  | .evict _ | .request _ _ | .take => isTrue trivial

def HoldsNewest (s : Retention) (made : UInt32 → Option (List UInt8)) : Prop :=
  ∀ e ∈ s.retained, made e.1 = some e.2.mData

theorem HoldsNewest.step {s : Retention} (hs : s.Represented)
    {made : UInt32 → Option (List UInt8)} (h : s.HoldsNewest made) {call : StoreCall}
    (hcall : LeavesNoOlder cfg s call) :
    ((machine cfg).step s call).1.HoldsNewest (making made call) := by
  have hchanged := (hs.step cfg call).2
  have hbuffer := @Represented.mem_retained s hs
  unfold HoldsNewest at h ⊢
  generalize ((machine cfg).step s call).1.retained = left at hchanged ⊢
  generalize s.retained = l at hchanged h hbuffer
  cases hchanged with
  | evict lNow => exact fun e he => h e ((Expiry.expire_suffix _ _ _ _ l).subset he)
  | request => exact h
  | take => exact h
  | retry lKey =>
      intro e he
      obtain ⟨e, hmem, rfl⟩ := List.mem_map.mp he
      have hnewest := h e hmem
      split_ifs <;> exact hnewest
  | skip lNow mTimestampUs aSuperFrameNo aFragmentNo aStreamId apData _ hskip =>
      intro e he
      have hother : e.1 ≠ makeRetentionKey aSuperFrameNo aFragmentNo := by
        intro heq
        have hnone := hcall hskip
        rw [← heq, hbuffer.mp he] at hnone
        cases hnone
      rw [making, Function.update_of_ne hother]
      exact h e he
  | retain lNow mTimestampUs aSuperFrameNo aFragmentNo aStreamId apData =>
      intro e he
      rw [making]
      rcases List.mem_append.mp he with he | he
      · obtain ⟨hleft, hother⟩ := List.mem_filter.mp he
        rw [Function.update_of_ne (of_decide_eq_true hother)]
        exact h e ((Expiry.expire_suffix _ _ _ _ l).subset hleft)
      · rw [List.mem_singleton.mp he, Function.update_self]

theorem HoldsNewest.after {s : Retention} (hs : s.Represented)
    {made : UInt32 → Option (List UInt8)} (h : s.HoldsNewest made) {calls : List StoreCall}
    (hcalls : (machine cfg).Along (LeavesNoOlder cfg) s calls) :
    (s.after cfg calls).HoldsNewest (calls.foldl making made) := by
  induction calls generalizing s made with
  | nil => exact h
  | cons call calls ih => exact ih (hs.step cfg call).1 (h.step hs hcalls.1) hcalls.2

end Retention

namespace Sender

variable {cfg : SenderConfig} {o : Outgoing} {apData : List UInt8} {n lFragIdx : ℕ}

/-! ### What is sent again -/

/-- The fragment that is taken for a bundle is not made anew by the bundle. -/
def KeepsTaken (cfg : SenderConfig) (clk : SendClock) (o : Outgoing) (apData : List UInt8)
    (n : ℕ) (step : ℕ × Sender) : Prop :=
  ∀ served ∈ step.2.servedBundled o (bundleRoom cfg n step.1),
    ∀ k ∈ List.range' step.1 (fragsInBundle cfg clk o apData n step.1 step.2),
      makeRetentionKey o.aSuperFrameNo (UInt16.ofNat k) = served.1.mKey →
        o.packet1 apData k = served.2.mData

/-- No bundle of a `send` makes anew the fragment it repeats. -/
def BundlesKeepTaken (cfg : SenderConfig) (s : Sender) : SenderCall → Prop
  | .send clk aData args =>
      cfg.mSubFragmentMode ≠ .single → Sendable cfg aData →
        ∀ step ∈ bundleSteps cfg clk ((s.evicted cfg clk).planned cfg aData args) aData
          (plan cfg aData.length).2.lNumType1Fragments 0 (s.evicted cfg clk).numbered,
          KeepsTaken cfg clk ((s.evicted cfg clk).planned cfg aData args) aData
            (plan cfg aData.length).2.lNumType1Fragments step
  | .receiveNack _ | .processRetransmits _ => True

instance (clk : SendClock) (o : Outgoing) (apData : List UInt8) (n : ℕ) (step : ℕ × Sender) :
    Decidable (KeepsTaken cfg clk o apData n step) :=
  inferInstanceAs (Decidable (∀ served ∈ step.2.servedBundled o (bundleRoom cfg n step.1), _))

instance (s : Sender) : (e : SenderCall) → Decidable (BundlesKeepTaken cfg s e)
  | .send .. => inferInstanceAs (Decidable (_ → _ → _))
  | .receiveNack _ | .processRetransmits _ => isTrue trivial

theorem newest_of_take {s : Retention} {made : UInt32 → Option (List UInt8)}
    (hs : Holds cfg s) (h : s.HoldsNewest made) {served : RetransmitRequest × RetainedFragment}
    (htake : s.take.2 = some served) :
    frames served.2.packet.data = [served.2.mData] ∧
      made served.1.mKey = some served.2.mData := by
  have hmem := Retention.mem_retained_of_take hs.represented htake
  exact ⟨frames_of_not (hs.travels _ hmem).1, h _ hmem⟩

theorem repeatsNewest_again {s : Retention} {made : UInt32 → Option (List UInt8)}
    (hs : Holds cfg s) (h : s.HoldsNewest made) {served : RetransmitRequest × RetainedFragment}
    (htake : s.take.2 = some served) : Retention.RepeatsNewest made (again served) := by
  obtain ⟨hframes, hnewest⟩ := newest_of_take hs h htake
  intro lKey hkey
  obtain rfl := Option.some.inj hkey
  rw [hframes, hnewest]
  rfl

theorem take_of_served {s : Sender} {room : ℕ} {served : RetransmitRequest × RetainedFragment}
    (h : s.served room = some served) : s.retention.take.2 = some served := by
  rw [Sender.served] at h
  split_ifs at h
  exact h

theorem foldl_takeCalls (s : Sender) (room : ℕ) (made : UInt32 → Option (List UInt8)) :
    (s.takeCalls room).foldl Retention.making made = made := by
  rw [takeCalls]
  split_ifs <;> rfl

theorem repeatsNewest_iteration (clk : SendClock) (hmode : cfg.mSubFragmentMode ≠ .single)
    (hframe : o.lType1FrameSize = type1FrameSize cfg)
    (hdata : n * o.aType1PayloadSize ≤ apData.length) (hlt : lFragIdx < n) {s : Sender}
    {made : UInt32 → Option (List UInt8)} (hs : Holds cfg s.retention)
    (h : s.retention.HoldsNewest made) (hkeep : KeepsTaken cfg clk o apData n (lFragIdx, s)) :
    Retention.record.Along Retention.RepeatsNewest made
      (iterationMoments cfg clk o apData n lFragIdx s) := by
  obtain ⟨hcount, hlength⟩ := bundleMembers_spec hdata (bundleIteration_spec cfg clk hdata hlt s)
  obtain ⟨hpos, height, -⟩ := bundleRoom_spec hmode hframe hlt
  have htaken : ((s.takeCalls (bundleRoom cfg n lFragIdx)).map Moment.call ++
      (s.servedAlone o (bundleRoom cfg n lFragIdx)).toList.map again).filterMap
        Moment.storeCall = s.takeCalls (bundleRoom cfg n lFragIdx) := by
    rw [List.filterMap_append, (filterMap_call _).1, (filterMap_again _).1, List.append_nil]
  apply Retention.along_record_append htaken
  · apply Retention.along_record_append (filterMap_call _).1 (Retention.along_record_calls _ _)
    rw [foldl_takeCalls]
    cases halone : s.servedAlone o (bundleRoom cfg n lFragIdx) with
    | none => trivial
    | some served =>
        rw [servedAlone, Option.filter_eq_some_iff] at halone
        exact ⟨repeatsNewest_again hs h (take_of_served halone.1), trivial⟩
  · rw [foldl_takeCalls]
    apply Retention.along_record_append (filterMap_call _).1 (Retention.along_record_calls _ _)
    refine ⟨fun lKey hkey => ?_, trivial⟩
    obtain ⟨served, hserved, rfl⟩ := Option.map_eq_some_iff.mp hkey
    have hfilter := hserved
    rw [servedBundled, Option.filter_eq_some_iff] at hfilter
    -- the fragments of the bundle that are made after the retransmit has been taken
    rw [Retention.foldl_making (makes_type1Calls fun k hle hk hkey =>
        hkeep served hserved k (List.mem_range'_1.mpr ⟨hle, hk⟩) hkey)
      (newest_of_take hs h (take_of_served hfilter.1)).2]
    have hmembers : frames (bundle o (bundleMembers cfg o apData n lFragIdx s
        (fragsInBundle cfg clk o apData n lFragIdx s))).data = _ :=
      frames_bundle o (by rw [fragsInBundle, hcount]; omega)
        (by rw [fragsInBundle, hcount]; omega) hlength
    rw [hmembers, bundleMembers, bundledRetransmit_eq, hserved]
    rfl

theorem repeatsNewest_bundleSteps (clk : SendClock) (hmode : cfg.mSubFragmentMode ≠ .single)
    (hframe : 0 < n → o.lType1FrameSize = type1FrameSize cfg)
    (hdata : n * o.aType1PayloadSize ≤ apData.length)
    (htravels : ∀ k < n, Travels cfg (o.packet1 apData k)) (lFragIdx : ℕ) (s : Sender)
    (hs : Holds cfg s.retention)
    (hcalls : (Retention.machine cfg).Along (Retention.LeavesNoOlder cfg) s.retention
      (bundleCalls cfg clk o apData n lFragIdx s))
    (hkeep : ∀ step ∈ bundleSteps cfg clk o apData n lFragIdx s,
      KeepsTaken cfg clk o apData n step) :
    ∀ made, s.retention.HoldsNewest made → Retention.record.Along Retention.RepeatsNewest made
      ((bundleSteps cfg clk o apData n lFragIdx s).flatMap fun step =>
        iterationMoments cfg clk o apData n step.1 step.2) := by
  induction lFragIdx, s using bundleCalls.induct cfg clk o apData n with
  | case1 lFragIdx s hlt sent ih =>
      intro made h
      obtain ⟨hnext, hafter⟩ := hs.iterated htravels (bundleIteration_spec cfg clk hdata hlt s)
      rw [bundleCalls, dif_pos hlt, ← List.append_assoc, Machine.along_append] at hcalls
      rw [bundleSteps, dif_pos hlt] at hkeep ⊢
      rw [List.forall_mem_cons] at hkeep
      obtain ⟨hfirst, hrest⟩ := hcalls
      rw [List.flatMap_cons]
      apply Retention.along_record_append (logs_iterationMoments clk hdata hlt s).storeCall
        (repeatsNewest_iteration clk hmode (hframe (by omega)) hdata hlt hs h hkeep.1)
      apply ih hnext _ hkeep.2
      · rw [hafter]
        exact h.after hs.represented hfirst
      · rw [hafter]
        exact hrest
  | case2 lFragIdx s hlt =>
      intro made _
      rw [bundleSteps, dif_neg hlt]
      trivial

theorem repeatsNewest_of_fragments {log : List Moment}
    (h : ∀ m ∈ log, ∃ clk o aFragmentNo data, m ∈ fragmentMoments clk o aFragmentNo data)
    (made : UInt32 → Option (List UInt8)) :
    Retention.record.Along Retention.RepeatsNewest made log := by
  apply Machine.along_of_forall
  intro made m hm
  obtain ⟨clk, o, aFragmentNo, data, hmem⟩ := h m hm
  rcases List.mem_pair.mp hmem with rfl | rfl
  · trivial
  · exact fun _ hkey => absurd hkey (Option.not_mem_none _)

theorem repeatsNewest_tailMoments (clk : SendClock) (p : Packetization)
    (made : UInt32 → Option (List UInt8)) :
    Retention.record.Along Retention.RepeatsNewest made (tailMoments clk o apData p) := by
  apply repeatsNewest_of_fragments
  intro m hm
  rcases List.mem_append.mp hm with hm | hm
  · split_ifs at hm
    · exact ⟨_, _, _, _, hm⟩
    · exact absurd hm List.not_mem_nil
  · exact ⟨_, _, _, _, hm⟩

theorem repeatsNewest_superframe (clk : SendClock) {s : Sender} {aData : List UInt8}
    (hsend : Sendable cfg aData) (args : SendArgs) {made : UInt32 → Option (List UInt8)}
    (hs : Holds cfg s.retention) (h : s.retention.HoldsNewest made)
    (hcalls : (Retention.machine cfg).Along (Retention.LeavesNoOlder cfg) s.retention
      (superframeCalls cfg clk (s.planned cfg aData args) aData (plan cfg aData.length).2
        s.numbered))
    (hkeep : cfg.mSubFragmentMode ≠ .single →
      ∀ step ∈ bundleSteps cfg clk (s.planned cfg aData args) aData
        (plan cfg aData.length).2.lNumType1Fragments 0 s.numbered,
        KeepsTaken cfg clk (s.planned cfg aData args) aData
          (plan cfg aData.length).2.lNumType1Fragments step) :
    Retention.record.Along Retention.RepeatsNewest made
      (superframeMoments cfg clk (s.planned cfg aData args) aData (plan cfg aData.length).2
        s.numbered) := by
  have hdata : (plan cfg aData.length).2.lNumType1Fragments *
      (s.planned cfg aData args).aType1PayloadSize ≤ aData.length := by
    have hsize := hsend.cuts.size
    change _ * (plan cfg aData.length).1 ≤ _
    omega
  rw [superframeMoments, Machine.along_append]
  refine ⟨?_, repeatsNewest_tailMoments clk _ _⟩
  rw [superframeCalls, Machine.along_append] at hcalls
  split_ifs with hsingle
  · apply repeatsNewest_of_fragments
    intro m hm
    obtain ⟨k, -, hm⟩ := List.mem_flatMap.mp hm
    exact ⟨_, _, _, _, hm⟩
  · rw [if_neg hsingle] at hcalls
    have htravels : ∀ k < (plan cfg aData.length).2.lNumType1Fragments,
        Travels cfg ((s.planned cfg aData args).packet1 aData k) := by
      intro k hk
      apply travels_superframe hsend s args
      exact List.mem_append_left _ (List.mem_map_of_mem (List.mem_range.mpr hk))
    exact repeatsNewest_bundleSteps clk hsingle plan_fst hdata htravels 0 s.numbered hs hcalls.1
      (hkeep hsingle) made h

theorem repeatsNewest_send (clk : SendClock) {s : Sender} (aData : List UInt8) (args : SendArgs)
    {made : UInt32 → Option (List UInt8)} (hs : Holds cfg s.retention)
    (h : s.retention.HoldsNewest made)
    (hcalls : (Retention.machine cfg).Along (Retention.LeavesNoOlder cfg) s.retention
      (s.sendCalls cfg clk aData args))
    (hkeep : BundlesKeepTaken cfg s (.send clk aData args)) :
    Retention.record.Along Retention.RepeatsNewest made (s.sendMoments cfg clk aData args) := by
  rw [sendCalls] at hcalls
  rw [sendMoments]
  split_ifs at hcalls ⊢ with hrefused hms hsend hsend
  · trivial
  · rw [Machine.along_append] at hcalls
    have hevicted := @evicted_retention cfg clk s
    rw [if_pos hms, Retention.after] at hevicted
    rw [← hevicted] at hcalls
    refine ⟨trivial, repeatsNewest_superframe clk hsend args (hs.evicted clk) ?_ hcalls.2
      fun hmode => hkeep hmode hsend⟩
    rw [hevicted]
    exact h.after hs.represented hcalls.1
  · exact ⟨trivial, trivial⟩
  · have hevicted := @evicted_retention cfg clk s
    rw [if_neg hms, Retention.after_nil] at hevicted
    rw [List.nil_append, ← hevicted] at hcalls
    rw [List.nil_append]
    exact repeatsNewest_superframe clk hsend args (hs.evicted clk) (hevicted ▸ h) hcalls
      fun hmode => hkeep hmode hsend
  · trivial

/-- Requests are served one after another, and what one has taken is sent before
the next is. -/
theorem repeatsNewest_retransmits (aMaxCount : ℕ) (queue : List RetransmitRequest) (lCount : ℕ)
    {s : Retention} {made : UInt32 → Option (List UInt8)} (hs : Holds cfg s)
    (h : s.HoldsNewest made) :
    Retention.record.Along Retention.RepeatsNewest made
      (retransmitMoments aMaxCount queue lCount s) := by
  induction queue generalizing lCount s with
  | nil => trivial
  | cons lRequest rest ih =>
      rw [retransmitMoments]
      by_cases hcount : lCount < aMaxCount
      · have hone : (Retention.machine cfg).Along (Retention.LeavesNoOlder cfg) s [.take] :=
          ⟨trivial, trivial⟩
        have htravels : ∀ call ∈ [StoreCall.take], call.Makes fun _ => Travels cfg := by
          intro call hcall
          rw [List.mem_singleton.mp hcall]
          trivial
        have hrest := ih (if s.take.2.isSome then lCount + 1 else lCount) (hs.after htravels)
          (h.after hs.represented hone)
        rw [if_pos hcount]
        refine ⟨trivial, ?_⟩
        cases htake : s.take.2 with
        | none =>
            rw [htake] at hrest
            exact hrest
        | some served =>
            rw [htake] at hrest
            exact ⟨repeatsNewest_again hs h htake, hrest⟩
      · rw [if_neg hcount]
        trivial

theorem repeatsNewest_step {s : Sender} (e : SenderCall) {made : UInt32 → Option (List UInt8)}
    (hs : Holds cfg s.retention) (h : s.retention.HoldsNewest made)
    (hcalls : (Retention.machine cfg).Along (Retention.LeavesNoOlder cfg) s.retention
      (s.storeCalls cfg e)) (hkeep : BundlesKeepTaken cfg s e) :
    Retention.record.Along Retention.RepeatsNewest made (s.moments cfg e) := by
  cases e with
  | send clk aData args => exact repeatsNewest_send clk aData args hs h hcalls hkeep
  | receiveNack aData => exact Retention.along_record_calls made _
  | processRetransmits aMaxCount => exact repeatsNewest_retransmits aMaxCount _ 0 hs h

/-- A run sends the newest fragments again as long as none that is too large
to be retained leaves an older one behind, and no bundle makes anew what it
repeats. -/
theorem sendsNewest_of_run (cfg : SenderConfig) (es : List SenderCall)
    (hcalls : (Retention.machine cfg).Along (Retention.LeavesNoOlder cfg) {}
      ((Sender.new cfg).trace cfg es))
    (hkeep : (Sender.machine cfg).Along (BundlesKeepTaken cfg) (Sender.new cfg) es) :
    Retention.SendsNewest ((Sender.new cfg).log cfg es) := by
  suffices hrun : ∀ (s : Sender) (made : UInt32 → Option (List UInt8)),
      Holds cfg s.retention → s.retention.HoldsNewest made →
      (Retention.machine cfg).Along (Retention.LeavesNoOlder cfg) s.retention (s.trace cfg es) →
      (Sender.machine cfg).Along (BundlesKeepTaken cfg) s es →
      Retention.record.Along Retention.RepeatsNewest made (s.log cfg es) by
    exact hrun (Sender.new cfg) _ (holds_empty cfg) (fun e he => absurd he List.not_mem_nil) hcalls
      hkeep
  clear hcalls hkeep
  intro s made hs h hcalls hkeep
  induction es generalizing s made with
  | nil => trivial
  | cons e es ih =>
      rw [trace, Machine.flatten, Machine.along_append] at hcalls
      have hafter := step_retention cfg s e
      have hrun := hafter
      rw [Retention.after] at hrun
      rw [← hrun] at hcalls
      apply Retention.along_record_append (logs_step s e).storeCall
        (repeatsNewest_step e hs h hcalls.1 hkeep.1)
      apply ih _ _ _ _ hcalls.2 hkeep.2
      · rw [hafter]
        exact hs.after (makes_storeCalls cfg s e)
      · rw [hafter]
        exact h.after hs.represented hcalls.1

end Sender

namespace Sample

def bundlingCfg : SenderConfig := SenderConfig.new 256 .eighth 1000 10000

/-- A Type1 fragment of the first superframe goes into the bundle of the second. -/
def bundledRun : List SenderCall := [sendAt 0 230, .receiveNack nack, sendAt 0 230]

end Sample

set_option maxRecDepth 4096 in
theorem sendsNewest_bundledRun :
    Retention.SendsNewest
      ((Sender.new Sample.bundlingCfg).log Sample.bundlingCfg Sample.bundledRun) :=
  Sender.sendsNewest_of_run Sample.bundlingCfg Sample.bundledRun (by decide +kernel)
    (by decide +kernel)

/-! ### An older fragment that is sent again -/

namespace Sample

/-- A superframe that is retained, and `n` more that are too large for it. -/
def largeRun (n : ℕ) : List SenderCall := sendAt 0 3 :: List.replicate n (sendAt 0 100)

/-- The sender after the first superframe. -/
def first : Sender := ((Sender.machine cappedCfg).step (Sender.new cappedCfg) (sendAt 0 3)).1

theorem first_kept : first.retention.evictOldRetention cappedCfg 0 0 = first.retention := by
  have horder : first.retention.mRetentionOrder = [⟨0, 1⟩] := by decide +kernel
  apply Sender.evictOldRetention_of_kept horder
  · decide +kernel
  · decide +kernel

/-- The containers are as they were after the first superframe, and the last
one has made the newest fragment under its key. -/
theorem largeRun_spec (n : ℕ) :
    ((Sender.machine cappedCfg).run (Sender.new cappedCfg) (largeRun (n + 1))).1.retention =
        first.retention ∧
      Retention.newest ((Sender.new cappedCfg).trace cappedCfg (largeRun (n + 1)))
          (makeRetentionKey (1 + UInt16.ofNat n) 0) =
        some (Sender.smallPacket (1 + UInt16.ofNat n) 100) := by
  have hms : cappedCfg.mRetentionMs > 0 := by decide
  have hpos : 0 < 100 := by decide
  have hsmall : 100 ≤ cappedCfg.mMtu - FrameType2.sizeof := by decide
  have hlarge : cappedCfg.mRetentionMaxBytes < FrameType2.sizeof + 100 := by decide
  obtain ⟨hretention, -⟩ :=
    Sender.sendAt_unretained rfl hms 0 hpos hsmall hlarge (n + 1) first first_kept
  obtain ⟨-, hnumber⟩ :=
    Sender.sendAt_unretained rfl hms 0 hpos hsmall hlarge n first first_kept
  refine ⟨hretention, ?_⟩
  have hlast := Sender.storeCalls_sendAt rfl hms 0 hpos hsmall
    ((Sender.machine cappedCfg).run first (List.replicate n (sendAt 0 100))).1
  rw [hnumber, show first.mSuperFrameNo = 1 by decide +kernel] at hlast
  have hsplit : largeRun (n + 1) = largeRun n ++ [sendAt 0 100] := by
    rw [largeRun, List.replicate_succ', largeRun, List.cons_append]
  have htrace : (Sender.new cappedCfg).trace cappedCfg (largeRun (n + 1)) =
      (Sender.new cappedCfg).trace cappedCfg (largeRun n) ++
        Sender.smallCalls 0 (1 + UInt16.ofNat n) 100 := by
    rw [hsplit, Sender.trace, Machine.flatten_append, ← hlast]
    exact congrArg (_ ++ ·) (List.append_nil _)
  rw [htrace, Retention.newest, List.foldl_append]
  exact Function.update_self _ _ _

def repair : List SenderCall := [.receiveNack nack, .processRetransmits 1]

/-- The number 0 is used again, and a NACK asks for it. -/
def staleRun : List SenderCall := largeRun 65536 ++ repair

theorem newest_of_sendsNewest {es : List SenderCall}
    (hretention : ((Sender.machine cappedCfg).run (Sender.new cappedCfg) es).1.retention =
      first.retention)
    (h : Retention.SendsNewest ((Sender.new cappedCfg).log cappedCfg (es ++ repair))) :
    ∃ apData, apData.length = 30 ∧
      Retention.newest ((Sender.new cappedCfg).trace cappedCfg es) 0 = some apData := by
  have hnack : Retention.nackCalls (Sender.nackEntries nack) = [.request 0 1] := by
    decide +kernel
  rw [Retention.SendsNewest, Sender.log, Machine.flatten_append, Machine.along_append,
    Retention.run_record] at h
  have hcalls := (Sender.logs_run cappedCfg (Sender.new cappedCfg) es).storeCall
  rw [Sender.log] at hcalls
  rw [hcalls] at h
  have hlog := h.2
  generalize ((Sender.machine cappedCfg).run (Sender.new cappedCfg) es).1 = s at hretention hlog
  have hqueued := Sender.step_retention cappedCfg s (.receiveNack nack)
  rw [Sender.storeCalls, hnack, hretention] at hqueued
  rw [repair, Machine.flatten, Machine.flatten, Machine.flatten, Sender.moments, hnack,
    List.append_nil, Machine.along_append, Retention.run_record,
    (Sender.filterMap_call _).1] at hlog
  have hanswer := hlog.2
  simp only [Sender.moments, hqueued] at hanswer
  have htaken : (first.retention.request 0 1).take.2.map (fun served =>
      (served.1.mKey, served.2.mData.length, decide (IsBundle served.2.mData))) =
        some (0, 30, false) := by decide +kernel
  obtain ⟨served, hserved, heq⟩ := Option.map_eq_some_iff.mp htaken
  obtain ⟨hkey, hlength, hbundle⟩ : served.1.mKey = 0 ∧ served.2.mData.length = 30 ∧
      decide (IsBundle served.2.mData) = false := by simpa using heq
  cases hqueue : (first.retention.request 0 1).mRetransmitQueue with
  | nil =>
      rw [Retention.take, hqueue] at hserved
      cases hserved
  | cons lRequest rest =>
      change Retention.record.Along Retention.RepeatsNewest _ (Sender.retransmitMoments 1
        (first.retention.request 0 1).mRetransmitQueue 0 (first.retention.request 0 1)) at hanswer
      rw [hqueue, Sender.retransmitMoments, if_pos one_pos, hserved] at hanswer
      have hnewest := hanswer.2.1 0 (congrArg some hkey)
      have hframes : frames served.2.packet.data = [served.2.mData] :=
        frames_of_not (of_decide_eq_false hbundle)
      rw [hframes] at hnewest
      exact ⟨served.2.mData, hlength, hnewest.symm⟩

end Sample

theorem not_sendsNewest_staleRun :
    ¬ Retention.SendsNewest
      ((Sender.new Sample.cappedCfg).log Sample.cappedCfg Sample.staleRun) := by
  intro h
  obtain ⟨hretention, hnewest⟩ := Sample.largeRun_spec 65535
  obtain ⟨apData, hlength, hold⟩ := Sample.newest_of_sendsNewest hretention h
  have hkey : makeRetentionKey (1 + UInt16.ofNat 65535) 0 = 0 := by decide
  rw [hkey] at hnewest
  obtain rfl := Option.some.inj (hold.symm.trans hnewest)
  rw [Sender.smallPacket, List.length_append, List.length_replicate] at hlength
  omega

end ElasticFrame
