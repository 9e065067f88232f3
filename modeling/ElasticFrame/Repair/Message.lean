import ElasticFrame.Lib.Ranges
import ElasticFrame.Receiver.Delivery
import ElasticFrame.Sender.Trace

/-!
The NACK that a receiver builds for a bucket, as the sender reads it: the
missing fragments in ranges of up to 256, the first 255 of them.
-/

namespace ElasticFrame

open Lib Lib.Ranges

/-! ### The scan -/

def Bucket.Missing (b : Bucket) (k : ℕ) : Prop := k ≤ b.mOfFragmentNo ∧ k ∉ b.mReceivedFragments

/-- The fragments an entry asks for. -/
def NackEntry.range (e : NackEntry) : Range := ⟨e.mFragmentNo.toNat, e.mFragmentCount.toNat⟩

/-- The scan from `lI` on, with a range pending that ends before `lI`, makes up
the pending range and what is missing among the next `count` fragments. -/
theorem Bucket.nackScan_spec (b : Bucket) (count lI : ℕ) (range : NackRange)
    (hrange : ∀ r ∈ range, r.2 ≤ 255 ∧ r.1 + r.2 + 1 = lI) :
    ∃ rs, b.nackScan count lI range = rs.map (fun r => b.nackEntry r.start r.more) ∧
      Coalesced 255 (fun k => (∃ r ∈ range, (Range.mk r.1 r.2).Mem k) ∨
        (lI ≤ k ∧ k < lI + count ∧ k ∉ b.mReceivedFragments)) rs := by
  induction count generalizing lI range with
  | zero =>
      cases range with
      | none =>
          refine ⟨[], rfl, coalesced_nil fun k => ?_⟩
          rintro (⟨r, hr, -⟩ | ⟨hle, hlt, -⟩)
          · cases hr
          · omega
      | some r =>
          obtain ⟨hmore, hend⟩ := hrange r rfl
          refine ⟨[⟨r.1, r.2⟩], rfl, ?_⟩
          have hnil : Coalesced 255 (fun _ => False) [] := coalesced_nil fun _ => id
          refine (hnil.cons (r := ⟨r.1, r.2⟩) hmore (fun _ => False.elim) (.inr id)).congr
            fun k => ?_
          simp only [Option.mem_some_iff, exists_eq_left', or_false]
          refine ⟨.inl, fun h => h.resolve_right ?_⟩
          rintro ⟨hle, hlt, -⟩
          omega
  | succ count ih =>
      have hstep : ∀ k, lI ≤ k ∧ k < lI + (count + 1) ∧ k ∉ b.mReceivedFragments ↔
          (k = lI ∧ lI ∉ b.mReceivedFragments) ∨
            (lI + 1 ≤ k ∧ k < lI + 1 + count ∧ k ∉ b.mReceivedFragments) := by
        intro k
        constructor
        · rintro ⟨hle, hlt, hnot⟩
          rcases Nat.eq_or_lt_of_le hle with rfl | hgt
          · exact .inl ⟨rfl, hnot⟩
          · exact .inr ⟨hgt, by omega, hnot⟩
        · rintro (⟨rfl, hnot⟩ | ⟨hle, hlt, hnot⟩)
          · exact ⟨le_rfl, by omega, hnot⟩
          · exact ⟨by omega, by omega, hnot⟩
      rw [nackScan.eq_def]
      dsimp only
      by_cases hmissing : lI ∉ b.mReceivedFragments
      · rw [if_pos hmissing]
        cases range with
        | none =>
            obtain ⟨rs, heq, hrs⟩ := ih (lI + 1) (some (lI, 0)) (by simp)
            refine ⟨rs, heq, hrs.congr fun k => ?_⟩
            rw [hstep]
            simp only [Option.mem_def, Option.some.injEq, exists_eq_left', reduceCtorEq, false_and,
              exists_false, false_or, Range.Mem, Range.last, hmissing, not_false_eq_true, and_true]
            refine or_congr_left ?_
            omega
        | some r =>
            obtain ⟨hmore, hend⟩ := hrange r rfl
            obtain ⟨lRangeStart, lRangeCount⟩ := r
            dsimp only at hmore hend ⊢
            split_ifs with hfull
            · obtain ⟨rs, heq, hrs⟩ := ih (lI + 1) (some (lRangeStart, lRangeCount + 1))
                (by
                  intro r hr
                  cases hr
                  dsimp only
                  omega)
              refine ⟨rs, heq, hrs.congr fun k => ?_⟩
              rw [hstep, ← or_assoc]
              refine or_congr_left ?_
              simp only [Option.mem_def, Option.some.injEq, exists_eq_left', Range.Mem, Range.last,
                hmissing, not_false_eq_true, and_true]
              omega
            · obtain ⟨rs, heq, hrs⟩ := ih (lI + 1) (some (lI, 0)) (by simp)
              refine ⟨⟨lRangeStart, lRangeCount⟩ :: rs, by rw [heq]; rfl, ?_⟩
              have hcut : lRangeCount = 255 := le_antisymm hmore (not_lt.mp hfull)
              refine (hrs.cons (r := ⟨lRangeStart, lRangeCount⟩) hmore ?_ (.inl hcut)).congr
                fun k => ?_
              · rintro k (⟨r, hr, hmem⟩ | ⟨hle, -⟩)
                · cases hr
                  have hge := hmem.1
                  simp only [Range.last] at hge ⊢
                  omega
                · simp only [Range.last]
                  omega
              · rw [hstep]
                simp only [Option.mem_def, Option.some.injEq, exists_eq_left', Range.Mem,
                  Range.last, hmissing, not_false_eq_true, and_true, Nat.add_zero]
                refine or_congr_right (or_congr_left ?_)
                omega
      · rw [if_neg hmissing]
        have hnone : ∀ k, lI ≤ k ∧ k < lI + (count + 1) ∧ k ∉ b.mReceivedFragments ↔
            lI + 1 ≤ k ∧ k < lI + 1 + count ∧ k ∉ b.mReceivedFragments := by
          intro k
          rw [hstep]
          exact or_iff_right fun h => hmissing h.2
        cases range with
        | none =>
            obtain ⟨rs, heq, hrs⟩ := ih (lI + 1) none (by simp)
            exact ⟨rs, heq, hrs.congr fun k => by rw [hnone]⟩
        | some r =>
            obtain ⟨hmore, hend⟩ := hrange r rfl
            obtain ⟨lRangeStart, lRangeCount⟩ := r
            obtain ⟨rs, heq, hrs⟩ := ih (lI + 1) none (by simp)
            dsimp only at hmore hend ⊢
            refine ⟨⟨lRangeStart, lRangeCount⟩ :: rs, by rw [heq]; rfl, ?_⟩
            refine (hrs.cons (r := ⟨lRangeStart, lRangeCount⟩) hmore ?_ (.inr ?_)).congr
              fun k => ?_
            · rintro k (⟨r, hr, -⟩ | ⟨hle, -⟩)
              · cases hr
              · simp only [Range.last]
                omega
            · rintro (⟨r, hr, -⟩ | ⟨hle, -⟩)
              · cases hr
              · simp only [Range.last] at hle
                omega
            · rw [hnone]
              simp

/-! ### The message -/

theorem NackEntry.length_bytes (e : NackEntry) : e.bytes.length = NackEntry.sizeof := by
  simp [bytes, sizeof]

theorem NackEntry.read_bytes_append (e : NackEntry) (rest : List UInt8) :
    NackEntry.read (e.bytes ++ rest) = e := by
  obtain ⟨s, n, k, c⟩ := e
  have hn := u16At_append [s] (u16Bytes k ++ ([c] ++ rest)) 1 n rfl
  have hk := u16At_append (s :: u16Bytes n) ([c] ++ rest) 3 k (by simp)
  have hc := byteAt_append (s :: (u16Bytes n ++ u16Bytes k)) rest c
  simp only [List.cons_append, List.nil_append, List.append_assoc, List.length_cons,
    List.length_append, length_u16Bytes] at hn hk hc
  simp [NackEntry.read, NackEntry.bytes, byteAt, hn, hk]
  exact hc

theorem drop_flatMap_bytes (es : List NackEntry) (n : ℕ) :
    (es.flatMap NackEntry.bytes).drop (n * NackEntry.sizeof) =
      (es.drop n).flatMap NackEntry.bytes := by
  induction es generalizing n with
  | nil => simp
  | cons e es ih =>
      cases n with
      | zero => rw [Nat.zero_mul, List.drop_zero, List.drop_zero]
      | succ n =>
          rw [List.flatMap_cons, List.drop_succ_cons, ← ih, Nat.succ_mul, Nat.add_comm,
            ← e.length_bytes, List.drop_append]
          simp

theorem length_flatMap_bytes (es : List NackEntry) :
    (es.flatMap NackEntry.bytes).length = es.length * NackEntry.sizeof := by
  induction es with
  | nil => rfl
  | cons e es ih =>
      rw [List.flatMap_cons, List.length_append, ih, e.length_bytes, List.length_cons,
        Nat.succ_mul, Nat.add_comm]

def nackMessage (lEntries : List NackEntry) : List UInt8 :=
  let lHeader : FrameType0Nack :=
    { mFrameType := makeFrameTypeByte .type0 0
      mSubtype := type0SubtypeNack
      mNackCount := UInt8.ofNat lEntries.length }
  lHeader.bytes ++ lEntries.flatMap NackEntry.bytes

theorem nackMessage_header (lEntries : List NackEntry) (hlength : lEntries.length ≤ 255) :
    (nackMessage lEntries).length =
        FrameType0Nack.sizeof + lEntries.length * NackEntry.sizeof ∧
      getFrameType (FrameType0Nack.read (nackMessage lEntries)).mFrameType = some .type0 ∧
      (FrameType0Nack.read (nackMessage lEntries)).mSubtype = type0SubtypeNack ∧
      (FrameType0Nack.read (nackMessage lEntries)).mNackCount.toNat = lEntries.length := by
  refine ⟨?_, getFrameType_makeFrameTypeByte .type0 0, rfl,
    UInt8.toNat_ofNat_of_lt' (Nat.lt_succ_of_le hlength)⟩
  rw [nackMessage, List.length_append, length_flatMap_bytes]
  rfl

theorem entries_nackMessage (lEntries : List NackEntry) :
    ((List.range lEntries.length).map fun lI =>
      NackEntry.read ((nackMessage lEntries).drop
        (FrameType0Nack.sizeof + lI * NackEntry.sizeof))) = lEntries := by
  apply List.ext_getElem
  · rw [List.length_map, List.length_range]
  · intro lI _ h
    have hdrop : (nackMessage lEntries).drop (FrameType0Nack.sizeof + lI * NackEntry.sizeof) =
        (lEntries.drop lI).flatMap NackEntry.bytes := by
      rw [← drop_flatMap_bytes, ← List.drop_drop]
      rfl
    rw [List.getElem_map, List.getElem_range, hdrop, List.drop_eq_getElem_cons h,
      List.flatMap_cons, NackEntry.read_bytes_append]

theorem nackEntries_nackMessage (lEntries : List NackEntry) (hlength : lEntries.length ≤ 255) :
    Sender.nackEntries (nackMessage lEntries) = lEntries := by
  obtain ⟨htotal, htype, hsubtype, hcount⟩ := nackMessage_header lEntries hlength
  rw [Sender.nackEntries]
  simp only [htype, hsubtype, hcount, htotal]
  rw [if_neg (by simp)]
  exact entries_nackMessage lEntries

/-- The range of the entry stays within the fragment numbers. -/
def NackEntry.Sound (e : NackEntry) : Prop :=
  e.mFragmentNo.toNat + e.mFragmentCount.toNat ≤ 65535

instance (e : NackEntry) : Decidable e.Sound := inferInstanceAs (Decidable (_ ≤ _))

namespace Retention

/-- A NACK is taken as a whole if all its ranges are within the fragment
numbers. -/
theorem requestEntries_ok_iff (lEntries : List NackEntry) (s : Retention) :
    (s.requestEntries lEntries).2 = .ok ↔ ∀ e ∈ lEntries, e.Sound := by
  induction lEntries generalizing s with
  | nil => simp [requestEntries]
  | cons e lEntries ih =>
      rw [requestEntries, List.forall_mem_cons]
      by_cases h : e.Sound
      · rw [if_neg (not_lt.mpr h), ih, and_iff_right h]
      · rw [if_pos (not_le.mp h)]
        exact iff_of_false (by simp) fun hall => h hall.1

end Retention

/-- A sender takes a message whose ranges are within the fragment numbers. -/
theorem receiveNack_nackMessage {lEntries : List NackEntry} (hlength : lEntries.length ≤ 255)
    (h : ∀ e ∈ lEntries, e.Sound) (s : Sender) :
    (s.receiveNack (nackMessage lEntries)).2 = .ok := by
  obtain ⟨htotal, htype, hsubtype, hcount⟩ := nackMessage_header lEntries hlength
  rw [Sender.receiveNack]
  simp only [htype, hsubtype, hcount, htotal, entries_nackMessage]
  rw [if_neg (by omega), if_neg (by simp), if_neg (by simp), if_neg (by simp)]
  exact (Retention.requestEntries_ok_iff lEntries s.retention).mpr h

/-! ### What a bucket asks for -/

namespace Bucket

theorem range_nackEntry (b : Bucket) {r : Range} (hlast : r.last < 65536) (hmore : r.more ≤ 255) :
    (b.nackEntry r.start r.more).range = r := by
  have hstart : r.start ≤ r.last := Nat.le_add_right _ _
  rw [NackEntry.range, nackEntry]
  simp only [UInt16.toNat_ofNat_of_lt' (show r.start < 2 ^ 16 by omega),
    UInt8.toNat_ofNat_of_lt' (show r.more < 2 ^ 8 by omega)]

theorem nackScan_missing (b : Bucket) :
    ∃ rs, b.nackScan (b.mOfFragmentNo + 1) 0 none =
        rs.map (fun r => b.nackEntry r.start r.more) ∧ Coalesced 255 b.Missing rs := by
  obtain ⟨rs, heq, hrs⟩ := b.nackScan_spec (b.mOfFragmentNo + 1) 0 none (by simp)
  refine ⟨rs, heq, hrs.congr fun k => ?_⟩
  simp [Missing]

theorem buildNack_eq_nil {b : Bucket} (h : b.nackScan (b.mOfFragmentNo + 1) 0 none = []) :
    b.buildNack = [] := if_pos h

theorem buildNack_eq_nackMessage {b : Bucket}
    (h : b.nackScan (b.mOfFragmentNo + 1) 0 none ≠ []) :
    b.buildNack = nackMessage ((b.nackScan (b.mOfFragmentNo + 1) 0 none).take 255) := if_neg h

theorem buildNack_eq_nil_iff (b : Bucket) : b.buildNack = [] ↔ ∀ k, ¬ b.Missing k := by
  obtain ⟨rs, heq, hrs⟩ := b.nackScan_missing
  have hnil : b.buildNack = [] ↔ rs = [] := by
    constructor
    · intro hnil
      by_contra hne
      rw [buildNack_eq_nackMessage (by rwa [heq, Ne, List.map_eq_nil_iff])] at hnil
      simp [nackMessage, FrameType0Nack.bytes] at hnil
    · rintro rfl
      exact buildNack_eq_nil heq
  rw [hnil]
  constructor
  · rintro rfl k hk
    obtain ⟨r, hr, -⟩ := (hrs.covers k).mp hk
    exact absurd hr List.not_mem_nil
  · intro hnone
    exact hrs.unique (coalesced_nil hnone)

theorem last_le_of_coalesced {b : Bucket} {rs : List Range} (h : Coalesced 255 b.Missing rs)
    {r : Range} (hr : r ∈ rs) : r.last ≤ b.mOfFragmentNo :=
  ((h.covers r.last).mpr ⟨r, hr, r.mem_last⟩).1

theorem nackEntries_buildNack {b : Bucket} {rs : List Range} (hof : b.mOfFragmentNo ≤ 8191)
    (heq : b.nackScan (b.mOfFragmentNo + 1) 0 none =
      rs.map fun r => b.nackEntry r.start r.more)
    (hrs : Coalesced 255 b.Missing rs) :
    Sender.nackEntries b.buildNack = (rs.take 255).map (fun r => b.nackEntry r.start r.more) ∧
      (Sender.nackEntries b.buildNack).map NackEntry.range = rs.take 255 := by
  have hentries : Sender.nackEntries b.buildNack =
      (rs.take 255).map fun r => b.nackEntry r.start r.more := by
    by_cases hnil : rs = []
    · rw [buildNack_eq_nil (by rw [heq, hnil, List.map_nil]), hnil]
      rfl
    · rw [buildNack_eq_nackMessage (by rwa [heq, Ne, List.map_eq_nil_iff]), heq, ← List.map_take]
      apply nackEntries_nackMessage
      rw [List.length_map, List.length_take]
      exact min_le_left _ _
  refine ⟨hentries, ?_⟩
  rw [hentries, List.map_map]
  refine (List.map_congr_left fun r hr => ?_).trans (List.map_id _)
  have hmem := List.mem_of_mem_take hr
  exact b.range_nackEntry
    ((last_le_of_coalesced hrs hmem).trans_lt (Nat.lt_of_le_of_lt hof (by norm_num)))
    (hrs.more_le r hmem)

theorem receiveNack_buildNack {b : Bucket} {rs : List Range} (hof : b.mOfFragmentNo ≤ 8191)
    (heq : b.nackScan (b.mOfFragmentNo + 1) 0 none =
      rs.map fun r => b.nackEntry r.start r.more)
    (hrs : Coalesced 255 b.Missing rs) (hsome : b.buildNack ≠ []) (s : Sender) :
    (s.receiveNack b.buildNack).2 = .ok := by
  rw [buildNack_eq_nackMessage (fun hnil => hsome (buildNack_eq_nil hnil)), heq, ← List.map_take]
  refine receiveNack_nackMessage ?_ (fun e he => ?_) s
  · rw [List.length_map, List.length_take]
    exact min_le_left _ _
  · obtain ⟨r, hr, rfl⟩ := List.mem_map.mp he
    have hmem := List.mem_of_mem_take hr
    have hlast := last_le_of_coalesced hrs hmem
    have hrange := b.range_nackEntry (hlast.trans_lt (Nat.lt_of_le_of_lt hof (by norm_num)))
      (hrs.more_le r hmem)
    have hend : (b.nackEntry r.start r.more).mFragmentNo.toNat +
        (b.nackEntry r.start r.more).mFragmentCount.toNat = r.last := congrArg Range.last hrange
    rw [NackEntry.Sound, hend]
    omega

/-- The NACK lists the first 255 of the ranges that the missing fragments make
up, which is what is missing as a whole if there are no more, and else what is
missing up to the end of the last of these. A sender accepts it. -/
theorem buildNack_missing (b : Bucket) (hof : b.mOfFragmentNo ≤ 8191) :
    ∃ rs, Coalesced 255 b.Missing rs ∧
      (∀ rs', Coalesced 255 b.Missing rs' → rs' = rs) ∧
      (b.buildNack = [] ↔ ∀ k, ¬ b.Missing k) ∧
      (Sender.nackEntries b.buildNack).map NackEntry.range = rs.take 255 ∧
      (Sender.nackEntries b.buildNack).Pairwise (fun e e' => e.range.last < e'.range.start) ∧
      (∀ e ∈ Sender.nackEntries b.buildNack,
        e.mStreamId = b.mStreamId ∧ e.mSuperFrameNo = b.mSavedFrameNo ∧
        e.range.more ≤ 255 ∧ e.range.last ≤ b.mOfFragmentNo ∧
        ∀ k, e.range.Mem k → b.Missing k) ∧
      (rs.length ≤ 255 → ∀ k,
        (∃ e ∈ Sender.nackEntries b.buildNack, e.range.Mem k) ↔ b.Missing k) ∧
      (∀ h : 254 < rs.length, ∀ k,
        (∃ e ∈ Sender.nackEntries b.buildNack, e.range.Mem k) ↔
          b.Missing k ∧ k ≤ (rs.get ⟨254, h⟩).last) ∧
      (b.buildNack ≠ [] → ∀ s : Sender, (s.receiveNack b.buildNack).2 = .ok) := by
  obtain ⟨rs, heq, hrs⟩ := b.nackScan_missing
  obtain ⟨hentries, hranges⟩ := nackEntries_buildNack hof heq hrs
  have hunion : ∀ k, (∃ e ∈ Sender.nackEntries b.buildNack, e.range.Mem k) ↔
      ∃ r ∈ rs.take 255, r.Mem k := by
    intro k
    rw [← hranges]
    simp only [List.mem_map, exists_exists_and_eq_and]
  refine ⟨rs, hrs, fun rs' h => h.unique hrs, b.buildNack_eq_nil_iff, hranges, ?_, fun e he => ?_,
    fun hfew k => ?_, fun hmany k => ?_, fun hsome s => receiveNack_buildNack hof heq hrs hsome s⟩
  · have hpairwise := hrs.ascending.sublist (List.take_sublist 255 rs)
    rw [← hranges, List.pairwise_map] at hpairwise
    exact hpairwise
  · have hr : e.range ∈ rs.take 255 := hranges ▸ List.mem_map_of_mem he
    have hmem := List.mem_of_mem_take hr
    refine ⟨?_, ?_, hrs.more_le _ hmem, last_le_of_coalesced hrs hmem, fun k hk =>
      (hrs.covers k).mpr ⟨_, hmem, hk⟩⟩
    all_goals
      rw [hentries] at he
      obtain ⟨r, -, rfl⟩ := List.mem_map.mp he
      rfl
  · rw [hunion, List.take_of_length_le hfew, ← hrs.covers]
  · rw [hunion]
    exact hrs.take hmany k

end Bucket

namespace Sample

/-- A bucket of four fragments of which only the second is here. -/
def nackBucket : Bucket :=
  { mOfFragmentNo := 3
    mReceivedFragments := {1} }

end Sample

namespace Bucket

theorem buildNack_missing_nackBucket :
    Sample.nackBucket.mOfFragmentNo ≤ 8191 ∧ Sample.nackBucket.buildNack ≠ [] ∧
      ∀ s : Sender, (s.receiveNack Sample.nackBucket.buildNack).2 = .ok := by
  have hsome : Sample.nackBucket.buildNack ≠ [] := by decide
  obtain ⟨rs, -, -, -, -, -, -, -, -, haccepted⟩ := buildNack_missing Sample.nackBucket (by decide)
  exact ⟨by decide, hsome, haccepted hsome⟩

end Bucket

end ElasticFrame
