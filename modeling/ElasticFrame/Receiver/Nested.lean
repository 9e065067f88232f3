import ElasticFrame.Receiver.Reentrant
import ElasticFrame.Receiver.Representation

/-!
What re-entrant callbacks may do. A pass inside a callback does no harm as
long as it keeps away from the buckets whose callbacks are running: then no
iterator is invalidated, no frame is delivered twice, and no bucket gets more
NACKs than it should. The receive callback leaves its bucket in the map until
it returns, so no pass inside of it can keep away from that bucket.
-/

namespace ElasticFrame

open Lib

namespace Reentrant

variable {B : BufferSize}

/-! ### What is to hold, and when it does -/

def Output.nacked? : Output B → Option (B.Index × ℕ)
  | .nack i opening _ => some (i, opening)
  | .deliver .. => none

def Output.delivered? : Output B → Option (B.Index × ℕ)
  | .nack .. => none
  | .deliver i opening _ => some (i, opening)

def nacks (os : List (Output B)) (i : B.Index) (n : ℕ) : ℕ :=
  (os.filterMap Output.nacked?).count (i, n)

def deliveries (os : List (Output B)) (i : B.Index) (n : ℕ) : ℕ :=
  (os.filterMap Output.delivered?).count (i, n)

/-- The bucket is open, and its frame is there to be delivered. -/
def Pending (s : Reentrant B) (i : B.Index) : Prop :=
  (s.receiver.mpBuckets i).mActive = true ∧ (s.receiver.mpBuckets i).mpFrame.isSome = true

instance (s : Reentrant B) (i : B.Index) : Decidable (s.Pending i) :=
  inferInstanceAs (Decidable (_ ∧ _))

/-- No pass has gone on from an erased entry or delivered a moved frame, every
opening has been delivered once unless the bucket is still pending, and none
has got more NACKs than the limit. -/
structure Tolerated (cfg : ReceiverConfig) (s : Reentrant B) (os : List (Output B)) : Prop where
  fault : s.fault = none
  once : ∀ i n, deliveries os i n =
    if (1 ≤ n ∧ n ≤ s.openings i) ∧ ¬ (n = s.openings i ∧ s.Pending i) then 1 else 0
  retries : ∀ i n, nacks os i n ≤ cfg.mMaxNackRetries.toNat

def nacking (s : Reentrant B) (i : B.Index) : ℕ := s.running.countP (Running.isNackFor i)

/-- Where the loop of `processNacks` gets to, it keeps away from the buckets
whose callbacks are running: the next NACK is within the limit when those on
their way are counted, or there is no next one and none of these buckets is due
when the pass goes on to select. -/
def KeepsAway (cfg : ReceiverConfig) (clk : PassClock) (s : Reentrant B)
    (entries : List (ℤ × B.Index)) : Prop :=
  match s.receiver.nextNack cfg clk entries with
  | some (_, i) =>
      (s.receiver.mpBuckets i).mNackCount.toNat + s.nacking i < cfg.mMaxNackRetries.toNat
  | none => ∀ i, 0 < s.nacking i → (s.receiver.mpBuckets i).due cfg clk.timeouts = false

/-- No receive callback is running. -/
def Outside (s : Reentrant B) : Prop := ∀ c ∈ s.running, c.isReceive = false

/-- No pass is begun while a receive callback is running, and the loops keep
away from the buckets whose NACK callbacks are. -/
def Harmless (cfg : ReceiverConfig) (s : Reentrant B) : Event → Prop
  | .receive env clk aData aSourceId =>
      Passes aData → s.Outside ∧
        (s.dispatched cfg env aData aSourceId).KeepsAway cfg clk
          ((s.dispatched cfg env aData aSourceId).receiver.firstEntries cfg)
  | .poll clk => s.Outside ∧ s.KeepsAway cfg clk (s.receiver.firstEntries cfg)
  | .ret =>
      match s.running with
      | .nack clk lOrder i _ :: outer =>
          (s.noted clk i outer).KeepsAway cfg clk
            ((s.noted clk i outer).receiver.laterEntries lOrder)
      | .receive .. :: _ | [] => True

instance (clk : PassClock) (cfg : ReceiverConfig) (s : Reentrant B)
    (entries : List (ℤ × B.Index)) : Decidable (s.KeepsAway cfg clk entries) :=
  match h : s.receiver.nextNack cfg clk entries with
  | some (_, i) =>
      decidable_of_iff
        ((s.receiver.mpBuckets i).mNackCount.toNat + s.nacking i < cfg.mMaxNackRetries.toNat)
        (by rw [KeepsAway, h])
  | none =>
      decidable_of_iff
        (∀ i, 0 < s.nacking i → (s.receiver.mpBuckets i).due cfg clk.timeouts = false)
        (by rw [KeepsAway, h])

instance (s : Reentrant B) : Decidable s.Outside :=
  inferInstanceAs (Decidable (∀ c ∈ s.running, c.isReceive = false))

instance (cfg : ReceiverConfig) (s : Reentrant B) : (e : Event) → Decidable (Harmless cfg s e)
  | .receive .. => inferInstanceAs (Decidable (_ → _ ∧ _))
  | .poll _ => inferInstanceAs (Decidable (_ ∧ _))
  | .ret =>
      match h : s.running with
      | .nack clk lOrder i _ :: outer =>
          decidable_of_iff
            ((s.noted clk i outer).KeepsAway cfg clk
              ((s.noted clk i outer).receiver.laterEntries lOrder))
            (by rw [Harmless, h])
      | .receive .. :: _ => isTrue (by rw [Harmless, h]; trivial)
      | [] => isTrue (by rw [Harmless, h]; trivial)

/-! ### Counting outputs -/

theorem nacks_append (os os' : List (Output B)) (i : B.Index) (n : ℕ) :
    nacks (os ++ os') i n = nacks os i n + nacks os' i n := by
  rw [nacks, List.filterMap_append, List.count_append]
  rfl

theorem deliveries_append (os os' : List (Output B)) (i : B.Index) (n : ℕ) :
    deliveries (os ++ os') i n = deliveries os i n + deliveries os' i n := by
  rw [deliveries, List.filterMap_append, List.count_append]
  rfl

theorem nacks_nack (i j : B.Index) (n m : ℕ) (data : List UInt8) :
    nacks [.nack i n data] j m = if i = j ∧ n = m then 1 else 0 := by
  simp [nacks, Output.nacked?, List.count_singleton]

theorem deliveries_nack (i j : B.Index) (n m : ℕ) (data : List UInt8) :
    deliveries [.nack i n data] j m = 0 := rfl

theorem nacks_deliver (i j : B.Index) (n m : ℕ) (f : SuperFrame) :
    nacks [.deliver i n f] j m = 0 := rfl

theorem deliveries_deliver (i j : B.Index) (n m : ℕ) (f : SuperFrame) :
    deliveries [.deliver i n f] j m = if i = j ∧ n = m then 1 else 0 := by
  simp [deliveries, Output.delivered?, List.count_singleton]

end Reentrant

/-! ### Deliveries, as far as other buckets go -/

namespace Receiver

variable {B : BufferSize}

theorem Represented.close {r r' : Receiver B} (h : r.Represented) {i : B.Index}
    (hact : (r.mpBuckets i).mActive = true)
    (has : r'.Has (Function.update r.mpBuckets i (r.mpBuckets i).closed)
      (r.mBucketMap.erase (r.mpBuckets i).mDeliveryOrder) r.mStreams r.frameNo) :
    r'.Represented := by
  refine ⟨fun o j => ?_, fun j hj => ?_, has.frameNo ▸ h.congruent⟩
  · rw [has.mBucketMap, has.mpBuckets, TreeMap.getElem?_erase]
    by_cases hji : j = i
    · subst hji
      have hclosed : (r.mpBuckets j).closed.mActive = false := rfl
      rw [Function.update_self, hclosed]
      simp only [Bool.false_eq_true, false_and, iff_false]
      split_ifs with ho
      · simp
      · exact fun hget => ho ((h.mapped o j).mp hget).2
    · rw [Function.update_of_ne hji]
      split_ifs with ho
      · refine iff_of_false (by simp) fun hj => ?_
        have hget := (h.mapped o j).mpr hj
        rw [← ho, (h.mapped _ i).mpr ⟨hact, rfl⟩] at hget
        exact hji (Option.some.inj hget).symm
      · exact h.mapped o j
  · rw [has.mpBuckets] at hj ⊢
    by_cases hji : j = i
    · subst hji
      rw [Function.update_self] at hj
      cases hj
    · rw [Function.update_of_ne hji] at hj ⊢
      exact h.wellFormed j hj

theorem has_delivered (r : Receiver B) {i : B.Index} {f : SuperFrame}
    (h : (r.mpBuckets i).mpFrame = some f) :
    ((r.handOver i).finishDelivery i).Has
      (Function.update r.mpBuckets i (r.mpBuckets i).closed)
      (r.mBucketMap.erase (r.mpBuckets i).mDeliveryOrder) r.mStreams r.frameNo := by
  have hhas := (r.deliverFrame_of_frame (h ▸ rfl : (r.mpBuckets i).mpFrame.isSome)).2
  rwa [deliverFrame_eq r h] at hhas

theorem noteNack_alike (clk : PassClock) (r : Receiver B) (i : B.Index) :
    r.Alike (r.noteNack clk i) := by
  refine ⟨fun j => ?_, rfl, rfl, rfl⟩
  by_cases hj : j = i
  · subst hj
    simp [noteNack, setBucket, Bucket.core]
  · simp [noteNack, setBucket, Function.update_of_ne hj]

theorem Represented.isSome_mpFrame {r : Receiver B} (h : r.Represented) {i : B.Index}
    (hact : (r.mpBuckets i).mActive = true) : (r.mpBuckets i).mpFrame.isSome = true := by
  have hframe := (h.wellFormed i hact).frame
  cases hf : (r.mpBuckets i).mpFrame with
  | none => simp [Bucket.block, hf] at hframe
  | some f => rfl

/-- The selection of a pass: open buckets that are due, each once. -/
theorem Represented.selected {r : Receiver B} (h : r.Represented) (cfg : ReceiverConfig)
    (lNow : ℤ) : (r.selected cfg lNow).Nodup ∧
      ∀ i ∈ r.selected cfg lNow, (r.mpBuckets i).mActive = true ∧
        (r.mpBuckets i).due cfg lNow = true := by
  have hsort : r.selected cfg lNow = r.dueList cfg lNow :=
    ((h.dueList_sorted cfg lNow).imp le_of_lt).insertionSort_eq
  rw [hsort]
  exact ⟨h.nodup_dueList cfg lNow, fun i hi => h.mem_dueList.mp hi⟩

end Receiver

namespace Reentrant

variable {B : BufferSize} {cfg : ReceiverConfig}

/-! ### The invariant -/

/-- What holds when no receive callback is running: every running callback is a
NACK's and stands on a valid entry, and the outputs are those of the openings
so far. -/
structure Calm (cfg : ReceiverConfig) (s : Reentrant B) (os : List (Output B)) : Prop where
  fault : s.fault = none
  represented : s.receiver.Represented
  running : ∀ c ∈ s.running, ∃ clk lOrder i, c = .nack clk lOrder i false ∧
    s.receiver.mBucketMap[lOrder]? = some i
  opened : ∀ i, (s.receiver.mpBuckets i).mActive = true → 1 ≤ s.openings i
  noted : ∀ i, (s.receiver.mpBuckets i).mActive = true →
    nacks os i (s.openings i) = (s.receiver.mpBuckets i).mNackCount.toNat + s.nacking i
  retries : ∀ i n, nacks os i n ≤ cfg.mMaxNackRetries.toNat
  future : ∀ i n, s.openings i < n → nacks os i n = 0
  once : ∀ i n, deliveries os i n =
    if (1 ≤ n ∧ n ≤ s.openings i) ∧
      ¬ (n = s.openings i ∧ (s.receiver.mpBuckets i).mActive = true) then 1 else 0

theorem calm_fresh : Calm cfg ({} : Reentrant B) [] where
  fault := rfl
  represented := Receiver.represented_fresh
  running c hc := absurd hc List.not_mem_nil
  opened i hact := nomatch hact
  noted i hact := nomatch hact
  retries i n := Nat.zero_le _
  future i n _ := rfl
  once i n := by
    rw [if_neg]
    · rfl
    · rintro ⟨⟨hpos, hle⟩, -⟩
      exact absurd (hpos.trans hle) (Nat.not_succ_le_zero 0)

theorem Calm.tolerated {s : Reentrant B} {os : List (Output B)} (h : Calm cfg s os) :
    Tolerated cfg s os where
  fault := h.fault
  once i n := by
    rw [h.once]
    congr 1
    rw [Pending, and_iff_left_of_imp (fun hact => h.represented.isSome_mpFrame hact)]
  retries := h.retries

theorem Calm.active_of_nacking {s : Reentrant B} {os : List (Output B)} (h : Calm cfg s os)
    {i : B.Index} (hi : 0 < s.nacking i) : (s.receiver.mpBuckets i).mActive = true := by
  obtain ⟨c, hc, hfor⟩ := List.countP_pos_iff.mp hi
  obtain ⟨clk, lOrder, j, rfl, hget⟩ := h.running c hc
  have hji : j = i := of_decide_eq_true hfor
  subst hji
  exact ((h.represented.mapped _ _).mp hget).1

theorem isNackFor_sync (m : Std.ExtTreeMap ℤ B.Index compare) (i : B.Index) (c : Running B) :
    (c.sync m).isNackFor i = c.isNackFor i := by
  cases c <;> rfl

theorem countP_map_sync (m : Std.ExtTreeMap ℤ B.Index compare) (i : B.Index)
    (cs : List (Running B)) :
    (cs.map (Running.sync m)).countP (Running.isNackFor i) = cs.countP (Running.isNackFor i) := by
  rw [List.countP_map]
  exact List.countP_congr fun c _ => by rw [Function.comp_apply, isNackFor_sync]

theorem Calm.dispatched {s : Reentrant B} {os : List (Output B)} (h : Calm cfg s os)
    (env : Surroundings) (aData : List UInt8) (src : UInt8) :
    Calm cfg (s.dispatched cfg env aData src) os := by
  have hkept := Receiver.kept_dispatch cfg s.receiver env aData src
  have hrep := Receiver.represented_dispatch h.represented cfg env aData src
  have hnacking : ∀ i, (s.dispatched cfg env aData src).nacking i = s.nacking i :=
    fun i => countP_map_sync _ i s.running
  have hstill : ∀ i, (s.receiver.mpBuckets i).mActive = true →
      (s.dispatched cfg env aData src).openings i = s.openings i :=
    fun i hact => if_neg fun hnew => absurd (hnew.1.symm.trans hact) (by decide)
  have hopened : ∀ i, (s.receiver.mpBuckets i).mActive = false →
      ((s.dispatched cfg env aData src).receiver.mpBuckets i).mActive = true →
      (s.dispatched cfg env aData src).openings i = s.openings i + 1 :=
    fun i hinact hact => if_pos ⟨hinact, hact⟩
  have hle : ∀ i, s.openings i ≤ (s.dispatched cfg env aData src).openings i := by
    intro i
    rw [Reentrant.dispatched]
    dsimp only
    split_ifs
    · exact Nat.le_succ _
    · exact le_rfl
  refine ⟨h.fault, hrep, ?_, ?_, ?_, h.retries, ?_, ?_⟩
  · intro c hc
    obtain ⟨c, hmem, rfl⟩ := List.mem_map.mp hc
    obtain ⟨clk, lOrder, i, rfl, hget⟩ := h.running c hmem
    obtain ⟨hact, ho⟩ := (h.represented.mapped _ _).mp hget
    obtain ⟨hact', ho', -⟩ := hkept.active i hact
    have hget' := (hrep.mapped lOrder i).mpr ⟨hact', ho'.trans ho⟩
    refine ⟨clk, lOrder, i, ?_, hget'⟩
    rw [Running.sync, hget']
    rfl
  · intro i hact
    cases hold : (s.receiver.mpBuckets i).mActive with
    | true =>
        rw [hstill i hold]
        exact h.opened i hold
    | false =>
        rw [hopened i hold hact]
        exact Nat.le_add_left _ _
  · intro i hact
    rw [hnacking]
    cases hold : (s.receiver.mpBuckets i).mActive with
    | true =>
        rw [hstill i hold, h.noted i hold]
        exact congrArg (fun c : UInt8 => c.toNat + s.nacking i) (hkept.active i hold).2.2.1.symm
    | false =>
        have hnone : s.nacking i = 0 := by
          by_contra hne
          have hact := h.active_of_nacking (Nat.pos_of_ne_zero hne)
          rw [hold] at hact
          cases hact
        have hcount : ((s.dispatched cfg env aData src).receiver.mpBuckets i).mNackCount = 0 :=
          (hkept.opened i hold hact).1
        rw [hopened i hold hact, h.future i _ (Nat.lt_succ_self _), hcount, hnone]
        rfl
  · exact fun i n hn => h.future i n ((hle i).trans_lt hn)
  · intro i n
    rw [h.once]
    cases hold : (s.receiver.mpBuckets i).mActive with
    | true =>
        have hact : ((s.dispatched cfg env aData src).receiver.mpBuckets i).mActive = true :=
          (hkept.active i hold).1
        rw [hstill i hold, hact]
    | false =>
        cases hact : ((s.dispatched cfg env aData src).receiver.mpBuckets i).mActive with
        | true =>
            rw [hopened i hold hact]
            congr 1
            simp only [Bool.false_eq_true, and_false, not_false_eq_true, and_true, eq_iff_iff]
            omega
        | false =>
            have hsame : (s.dispatched cfg env aData src).openings i = s.openings i :=
              if_neg fun hnew => absurd (hact.symm.trans hnew.2) (by decide)
            rw [hsame]

theorem Calm.noted_of_return {s : Reentrant B} {os : List (Output B)} (h : Calm cfg s os)
    {clk : PassClock} {lOrder : ℤ} {i : B.Index} {erased : Bool} {outer : List (Running B)}
    (hrunning : s.running = .nack clk lOrder i erased :: outer) :
    Calm cfg (s.noted clk i outer) os := by
  have halike := s.receiver.noteNack_alike clk i
  have hactive : ∀ j, ((s.noted clk i outer).receiver.mpBuckets j).mActive =
      (s.receiver.mpBuckets j).mActive :=
    fun j => (halike.bucket_eq Bucket.mActive (fun _ => rfl) j).symm
  have hnacking : ∀ j, s.nacking j =
      (s.noted clk i outer).nacking j + if i = j then 1 else 0 := by
    intro j
    rw [nacking, hrunning, List.countP_cons]
    simp only [Running.isNackFor, decide_eq_true_eq]
    rfl
  refine ⟨h.fault, h.represented.alike halike, ?_, ?_, ?_, h.retries, h.future, ?_⟩
  · intro c hc
    exact h.running c (hrunning ▸ List.mem_cons_of_mem _ hc)
  · intro j hact
    rw [hactive] at hact
    exact h.opened j hact
  · intro j hact
    rw [hactive] at hact
    have hcount := h.noted j hact
    rw [hnacking] at hcount
    refine hcount.trans ?_
    by_cases hj : i = j
    · subst hj
      -- with one more on its way the count is below its limit, and does not wrap
      have hlimit := h.retries i (s.openings i)
      have hmax := cfg.mMaxNackRetries.toNat_lt
      have hbucket : ((s.noted clk i outer).receiver.mpBuckets i).mNackCount =
          (s.receiver.mpBuckets i).mNackCount + 1 := by
        simp [Reentrant.noted, Receiver.noteNack, Receiver.setBucket]
      rw [if_pos rfl] at hcount ⊢
      rw [hbucket, UInt8.toNat_add, UInt8.toNat_one, Nat.mod_eq_of_lt (by omega)]
      omega
    · have hbucket : (s.noted clk i outer).receiver.mpBuckets j = s.receiver.mpBuckets j :=
        Function.update_of_ne (Ne.symm hj) _ _
      rw [if_neg hj, hbucket]
      omega
  · intro j n
    rw [h.once, hactive]
    rfl

/-- The invariant. While a receive callback is running, its bucket counts as
closed already, and the pass it returns to has open buckets left that no
callback is running for. -/
def Inv (cfg : ReceiverConfig) (s : Reentrant B) (os : List (Output B)) : Prop :=
  match s.running with
  | .receive i rest :: outer =>
      Calm cfg (s.finished i outer) os ∧ (s.receiver.mpBuckets i).mpFrame = none ∧ rest.Nodup ∧
        ∀ j ∈ rest, ((s.finished i outer).receiver.mpBuckets j).mActive = true ∧
          (s.finished i outer).nacking j = 0
  | _ => Calm cfg s os

theorem Inv.calm {s : Reentrant B} {os : List (Output B)} (h : Inv cfg s os)
    (houtside : s.Outside) : Calm cfg s os := by
  rw [Inv] at h
  split at h
  · next i rest outer hrunning =>
      have hreceive := houtside (.receive i rest) (hrunning ▸ List.mem_cons_self)
      cases hreceive
  · exact h

theorem Calm.inv {s : Reentrant B} {os : List (Output B)} (h : Calm cfg s os) : Inv cfg s os := by
  rw [Inv]
  split
  · next i rest outer hrunning =>
      obtain ⟨clk, lOrder, j, heq, -⟩ :=
        h.running (.receive i rest) (hrunning ▸ List.mem_cons_self)
      cases heq
  · exact h

theorem Inv.tolerated {s : Reentrant B} {os : List (Output B)} (h : Inv cfg s os) :
    Tolerated cfg s os := by
  rw [Inv] at h
  split at h
  · next i rest outer hrunning =>
      obtain ⟨hcalm, hnone, -⟩ := h
      have hpending : ∀ j, s.Pending j ↔
          ((s.finished i outer).receiver.mpBuckets j).mActive = true := by
        intro j
        by_cases hj : j = i
        · subst hj
          simp [Pending, hnone, finished, Receiver.finishDelivery, Receiver.setBucket]
        · have hbucket : (s.finished i outer).receiver.mpBuckets j = s.receiver.mpBuckets j :=
            Function.update_of_ne hj _ _
          rw [hbucket, Pending, and_iff_left_of_imp]
          intro hact
          rw [← hbucket] at hact ⊢
          exact hcalm.represented.isSome_mpFrame hact
      refine ⟨hcalm.fault, fun j n => ?_, hcalm.retries⟩
      rw [hcalm.once]
      congr 1
      rw [hpending]
      rfl
  · exact h.tolerated

theorem Calm.deliverNext {s : Reentrant B} {os : List (Output B)} (h : Calm cfg s os)
    {is : List B.Index} (hnodup : is.Nodup)
    (his : ∀ i ∈ is, (s.receiver.mpBuckets i).mActive = true ∧ s.nacking i = 0) :
    Inv cfg (s.deliverNext is).1 (os ++ (s.deliverNext is).2) := by
  cases is with
  | nil =>
      rw [Reentrant.deliverNext, List.append_nil]
      exact h.inv
  | cons i rest =>
      obtain ⟨hnew, hnodup⟩ := List.nodup_cons.mp hnodup
      obtain ⟨hact, hfree⟩ := his i List.mem_cons_self
      obtain ⟨f, hf⟩ := Option.isSome_iff_exists.mp (h.represented.isSome_mpFrame hact)
      have has := s.receiver.has_delivered hf
      simp only [Reentrant.deliverNext, hf, Inv]
      generalize (s.receiver.mpBuckets i).deliveredFrame f = frame
      generalize hs' : Reentrant.finished { s with
        receiver := s.receiver.handOver i, running := .receive i rest :: s.running } i
          s.running = s'
      have hreceiver : s'.receiver = (s.receiver.handOver i).finishDelivery i := by
        rw [← hs']
        rfl
      have hrunning : s'.running = s.running.map (Running.sync s'.receiver.mBucketMap) := by
        rw [hreceiver, ← hs']
        rfl
      have hopenings : s'.openings = s.openings := by
        rw [← hs']
        rfl
      rw [← hreceiver] at has
      have hclosed : (s'.receiver.mpBuckets i).mActive = false := by
        rw [has.mpBuckets, Function.update_self]
        rfl
      have hother : ∀ j, j ≠ i → s'.receiver.mpBuckets j = s.receiver.mpBuckets j := by
        intro j hj
        rw [has.mpBuckets, Function.update_of_ne hj]
      have hstill : ∀ j, (s'.receiver.mpBuckets j).mActive = true →
          j ≠ i ∧ s'.receiver.mpBuckets j = s.receiver.mpBuckets j := by
        intro j hj
        have hji : j ≠ i := by
          rintro rfl
          rw [hclosed] at hj
          cases hj
        exact ⟨hji, hother j hji⟩
      have hnacking : ∀ j, s'.nacking j = s.nacking j := by
        intro j
        rw [nacking, hrunning, countP_map_sync]
        rfl
      refine ⟨⟨?_, h.represented.close hact has, ?_, ?_, ?_, ?_, ?_, ?_⟩, ?_, hnodup, ?_⟩
      · rw [← hs']
        exact h.fault
      · intro c hc
        rw [hrunning] at hc
        obtain ⟨c, hmem, rfl⟩ := List.mem_map.mp hc
        obtain ⟨clk, lOrder, j, rfl, hget⟩ := h.running c hmem
        have hji : j ≠ i := by
          rintro rfl
          have hpos : 0 < s.nacking j := List.countP_pos_iff.mpr ⟨_, hmem, decide_eq_true rfl⟩
          omega
        have hget' : s'.receiver.mBucketMap[lOrder]? = some j := by
          obtain ⟨hactj, ho⟩ := (h.represented.mapped _ _).mp hget
          apply ((h.represented.close hact has).mapped _ _).mpr
          rw [hother j hji]
          exact ⟨hactj, ho⟩
        refine ⟨clk, lOrder, j, ?_, hget'⟩
        rw [Running.sync, hget']
        rfl
      · intro j hj
        obtain ⟨-, hbucket⟩ := hstill j hj
        rw [hopenings]
        exact h.opened j (hbucket ▸ hj)
      · intro j hj
        obtain ⟨-, hbucket⟩ := hstill j hj
        rw [nacks_append, nacks_deliver, hopenings, hnacking, hbucket]
        exact h.noted j (hbucket ▸ hj)
      · intro j n
        rw [nacks_append, nacks_deliver]
        exact h.retries j n
      · intro j n hn
        rw [nacks_append, nacks_deliver]
        exact h.future j n (hopenings ▸ hn)
      · intro j n
        rw [deliveries_append, deliveries_deliver, h.once, hopenings]
        by_cases hj : j = i
        · subst hj
          have hpos := h.opened j hact
          rw [hact, hclosed]
          simp only [true_and, and_true, Bool.false_eq_true, and_false, not_false_eq_true]
          split_ifs <;> omega
        · have hne : ¬ (i = j ∧ s.openings i = n) := fun heq => hj heq.1.symm
          rw [if_neg hne, hother j hj, Nat.add_zero]
      · simp [Receiver.handOver, Receiver.setBucket]
      · intro j hj
        obtain ⟨hactj, hfreej⟩ := his j (List.mem_cons_of_mem _ hj)
        have hji : j ≠ i := fun heq => hnew (heq ▸ hj)
        rw [hother j hji, hnacking]
        exact ⟨hactj, hfreej⟩

theorem Calm.scanNacks {s : Reentrant B} {os : List (Output B)} (h : Calm cfg s os)
    (clk : PassClock) {entries : List (ℤ × B.Index)}
    (hentries : ∀ e ∈ entries, e ∈ s.receiver.mBucketMap.toList)
    (haway : s.KeepsAway cfg clk entries) :
    Inv cfg (s.scanNacks cfg clk entries).1 (os ++ (s.scanNacks cfg clk entries).2) := by
  rw [KeepsAway] at haway
  rw [Reentrant.scanNacks]
  cases hnext : s.receiver.nextNack cfg clk entries with
  | none =>
      rw [hnext] at haway
      obtain ⟨hnodup, hdue⟩ := h.represented.selected cfg clk.timeouts
      apply h.deliverNext hnodup
      intro i hi
      obtain ⟨hact, hidue⟩ := hdue i hi
      refine ⟨hact, ?_⟩
      by_contra hne
      rw [haway i (Nat.pos_of_ne_zero hne)] at hidue
      cases hidue
  | some e =>
      obtain ⟨lOrder, i⟩ := e
      rw [hnext] at haway
      dsimp only at haway ⊢
      have hget : s.receiver.mBucketMap[lOrder]? = some i :=
        Std.ExtTreeMap.mem_toList_iff_getElem?_eq_some.mp
          (hentries _ (List.mem_of_find?_eq_some hnext))
      obtain ⟨hact, -⟩ := (h.represented.mapped _ _).mp hget
      have hnacking : ∀ j, nacking { s with running := .nack clk lOrder i false :: s.running } j =
          s.nacking j + if i = j then 1 else 0 := by
        intro j
        rw [nacking, List.countP_cons]
        simp [Running.isNackFor, nacking]
      apply Calm.inv
      refine ⟨h.fault, h.represented, ?_, h.opened, ?_, ?_, ?_, ?_⟩
      · intro c hc
        rcases List.mem_cons.mp hc with rfl | hc
        · exact ⟨clk, lOrder, i, rfl, hget⟩
        · exact h.running c hc
      · intro j hj
        rw [nacks_append, nacks_nack, hnacking, h.noted j hj]
        by_cases hij : i = j
        · subst hij
          rw [if_pos ⟨rfl, rfl⟩, if_pos rfl]
          exact Nat.add_assoc _ _ _
        · rw [if_neg (fun heq => hij heq.1), if_neg hij]
          rfl
      · intro j n
        rw [nacks_append, nacks_nack]
        split_ifs with heq
        · obtain ⟨rfl, rfl⟩ := heq
          rw [h.noted i hact]
          exact haway
        · exact h.retries j n
      · intro j n hn
        rw [nacks_append, nacks_nack, h.future j n hn, if_neg]
        rintro ⟨rfl, rfl⟩
        exact absurd hn (lt_irrefl _)
      · intro j n
        rw [deliveries_append, deliveries_nack]
        exact h.once j n

theorem mem_firstEntries {s : Reentrant B} :
    ∀ e ∈ s.receiver.firstEntries cfg, e ∈ s.receiver.mBucketMap.toList := by
  intro e he
  rw [Receiver.firstEntries] at he
  split_ifs at he
  · exact absurd he List.not_mem_nil
  · exact he

theorem Inv.step {s : Reentrant B} {os : List (Output B)} (h : Inv cfg s os) (e : Event)
    (hharmless : Harmless cfg s e) :
    Inv cfg ((machine B cfg).step s e).1 (os ++ ((machine B cfg).step s e).2) := by
  have hfault : ¬ s.fault ≠ none := not_not.mpr h.tolerated.fault
  simp only [machine, if_neg hfault]
  cases e with
  | receive env clk aData aSourceId =>
      dsimp only
      split_ifs with hpasses
      · obtain ⟨houtside, haway⟩ := hharmless hpasses
        exact ((h.calm houtside).dispatched env aData aSourceId).scanNacks clk mem_firstEntries
          haway
      · rw [List.append_nil]
        exact h
  | poll clk =>
      obtain ⟨houtside, haway⟩ := hharmless
      exact (h.calm houtside).scanNacks clk mem_firstEntries haway
  | ret =>
      rw [Harmless] at hharmless
      dsimp only
      rw [returned]
      have hinv := h
      rw [Inv] at hinv
      split at hinv
      · next i rest outer hrunning =>
          obtain ⟨hcalm, -, hnodup, hrest⟩ := hinv
          rw [hrunning]
          exact hcalm.deliverNext hnodup hrest
      · next hrunning =>
          cases hcase : s.running with
          | nil =>
              dsimp only
              rw [List.append_nil]
              exact h
          | cons c outer =>
              obtain ⟨clk, lOrder, i, rfl, -⟩ := hinv.running c (hcase ▸ List.mem_cons_self)
              rw [hcase] at hharmless
              dsimp only at hharmless ⊢
              rw [if_neg (by decide)]
              apply (hinv.noted_of_return hcase).scanNacks clk _ hharmless
              exact fun e he => (List.mem_filter.mp he).1

/-- A run whose steps are all harmless is tolerated, whatever its callbacks
call. -/
theorem tolerated_of_run (B : BufferSize) (cfg : ReceiverConfig) (es : List Event)
    (h : (machine B cfg).Along (Harmless cfg) {} es) :
    Tolerated cfg ((machine B cfg).run {} es).1 ((machine B cfg).run {} es).2 := by
  have hrun := (machine B cfg).run_history (I := Inv cfg)
    (fun s os e hs hC => hs.step e hC) (calm_fresh.inv : Inv cfg ({} : Reentrant B) []) h
  exact hrun.tolerated

end Reentrant

/-! ### Callbacks that call back -/

namespace Sample

def rtcCfg : ReceiverConfig where
  mTimeoutMs := 200
  mHolTimeoutMs := 50
  mNackIntervalMs := 20
  mMode := .runToCompletion

def clkAt (now : ℤ) : PassClock where
  timeouts := now
  nacks := now
  nackDelay _ := now

def firstHalf : List UInt8 :=
  let lHeader : FrameType1 :=
    { mFrameType := makeFrameTypeByte .type1 0
      mStreamId := 0
      mSuperFrameNo := 0
      mFragmentNo := 0
      mOfFragmentNo := 1 }
  lHeader.bytes ++ [7]

/-- The second fragment is lost, asked for, and comes in while the NACK callback
is running. It is delivered there, and both callbacks return. -/
def retransmitRun : List Reentrant.Event :=
  [.receive env (clkAt 0) firstHalf 0, .poll (clkAt 20000),
    .receive env (clkAt 20000) (type2 0 1 1 [7]) 0, .ret, .ret]

/-- The receive callback polls. -/
def pollRun : List Reentrant.Event :=
  [.receive env (clkAt 0) (type2 0 0 0 [7]) 0, .poll (clkAt 0)]

/-- The NACK callback polls, a second NACK is sent meanwhile, and the fragment
comes in when both have returned. -/
def patientRun : List Reentrant.Event :=
  [.receive env (clkAt 0) firstHalf 0, .poll (clkAt 20000), .poll (clkAt 20000), .ret, .ret,
    .receive env (clkAt 30000) (type2 0 1 1 [7]) 0, .ret]

end Sample

theorem tolerated_patientRun :
    let run := (Reentrant.machine ⟨3, 2, by norm_num, by norm_num⟩ Sample.rtcCfg).run {}
      Sample.patientRun
    Reentrant.Tolerated Sample.rtcCfg run.1 run.2 :=
  Reentrant.tolerated_of_run _ Sample.rtcCfg Sample.patientRun (by decide +kernel)

theorem not_tolerated_callbacks :
    let rtc := Reentrant.machine .default Sample.rtcCfg
    ¬ Reentrant.Tolerated Sample.rtcCfg (rtc.run {} Sample.retransmitRun).1
        (rtc.run {} Sample.retransmitRun).2 ∧
      ¬ Reentrant.Tolerated Sample.rtcCfg (rtc.run {} Sample.pollRun).1
        (rtc.run {} Sample.pollRun).2 := by
  intro rtc
  constructor
  · intro h
    have hfault : (rtc.run {} Sample.retransmitRun).1.fault = some .erasedEntry := by
      decide +kernel
    rw [h.fault] at hfault
    cases hfault
  · intro h
    have hfault : (rtc.run {} Sample.pollRun).1.fault = some .movedFrame := by decide +kernel
    rw [h.fault] at hfault
    cases hfault

end ElasticFrame
