import ElasticFrame.Receiver.Layout

/-!
When a frame reported complete is written from end to end.

Completeness counts fragments, but the size of the frame and the place of the
Type2 depend on the kinds that filled the last two slots and on their order.
A Type3 shorter than a slot leaves the rest of the slot unwritten; that is
harmless as long as the frame ends there or the Type2 is put right behind it.
`Holed` lists the four ways in which neither happens.
-/

namespace ElasticFrame

open Lib

/-- The accepted fragments leave a hole behind a Type3 that does not fill its
slot. -/
def Holed (h : List Fragment) : Prop :=
  ∃ a t c, h = a ++ .type3 t :: c ∧ (Fragment.type3 t).size < (Fragment.type3 t).type1Size ∧
    -- an empty Type3 is not seen by the Type2 that comes after it
    ((Fragment.type3 t).size = 0 ∧ (∃ d, .type2 d ∈ c) ∨
    -- an empty Type2 is not moved by the Type3 that comes after it
    (∃ d, .type2 d ∈ a ∧ (Fragment.type2 d).size = 0) ∨
    -- a Type1 in the last slot is never moved, and the frame keeps its size
    Bucket.LastType1 a ∨ a = [] ∧ Bucket.LastType1 c)

/-- Every byte of the frame comes from the payload of one of the fragments. -/
def SuperFrame.Written (f : SuperFrame) (h : List Fragment) : Prop :=
  ∀ i < f.mSize, ∃ g ∈ h, ∃ x ∈ g.payload, (f.mpData.bind fun blk => blk.cell i) = some x

namespace Bucket

/-- The cells of `[lo, hi)` hold payload bytes of the fragments. -/
def Filled (h : List Fragment) (blk : Block) (lo hi : ℕ) : Prop :=
  ∀ i, lo ≤ i → i < hi → ∃ g ∈ h, ∃ x ∈ g.payload, blk.cell i = some x

theorem filled_of_holds {h : List Fragment} {blk : Block} {g : Fragment} (hg : g ∈ h)
    {lo hi : ℕ} (hholds : blk.Holds lo g.payload) (hhi : hi ≤ lo + g.payload.length) :
    Filled h blk lo hi := by
  intro i hlo hi'
  have hj : i - lo < g.payload.length := by omega
  have hcell := hholds (i - lo) hj
  rw [Nat.add_sub_cancel' hlo, List.getElem?_eq_getElem hj] at hcell
  exact ⟨g, hg, _, List.getElem_mem hj, hcell⟩

theorem Filled.append {h : List Fragment} {blk : Block} {lo mid hi : ℕ}
    (hlo : Filled h blk lo mid) (hhi : Filled h blk mid hi) : Filled h blk lo hi := by
  intro i hle hlt
  rcases Nat.lt_or_ge i mid with hmid | hmid
  · exact hlo i hle hmid
  · exact hhi i hmid hlt

theorem filled_slots {h : List Fragment} {b : Bucket} {blk : Block} (hp : Placed h b blk)
    (hs : Slots h b) {n : ℕ} (hall : ∀ k < n, ∃ d, .type1 d ∈ h ∧ (Fragment.type1 d).slot = k) :
    Filled h blk 0 (b.mFragmentSize * n) := by
  induction n with
  | zero => exact fun i _ hi => absurd hi (by simp)
  | succ n ih =>
      obtain ⟨d, hd, hslot⟩ := hall n (Nat.lt_succ_self n)
      have hholds := hp _ hd (by simp)
      rw [hslot] at hholds
      refine (ih fun k hk => hall k (by omega)).append (filled_of_holds hd hholds ?_)
      rw [Fragment.length_payload (hs.checked _ hd).1, Nat.mul_succ]
      exact Nat.add_le_add_left (le_of_eq (hs.size _ hd (.inr (by simp))).symm) _

theorem exists_slot {B : BufferSize} {i : B.Index} {h : List Fragment} {b : Bucket}
    (hs : Slots h b) (hwf : b.WellFormed i) (hcomplete : b.complete = true) {k : ℕ}
    (hk : k ≤ b.mOfFragmentNo) : ∃ g ∈ h, g.slot = k := by
  rw [← hs.mem_received]
  have hsub : b.mReceivedFragments ⊆ Finset.range (b.mOfFragmentNo + 1) := fun j hj =>
    Finset.mem_range.mpr (Nat.lt_succ_of_le (hwf.received_le j hj))
  have hcard : (Finset.range (b.mOfFragmentNo + 1)).card ≤ b.mReceivedFragments.card := by
    rw [Finset.card_range, ← hwf.count, of_decide_eq_true hcomplete]
  rw [Finset.eq_of_subset_of_card_le hsub hcard, Finset.mem_range]
  exact Nat.lt_succ_of_le hk

theorem last_slot {h : List Fragment} {b : Bucket} (hs : Slots h b) {g : Fragment} (hg : g ∈ h)
    (hslot : g.slot = b.mOfFragmentNo) :
    (∃ d, .type2 d ∈ h ∧ g = .type2 d) ∨
      ∃ d, .type1 d ∈ h ∧ g = .type1 d ∧
        (Fragment.type1 d).slot = (Fragment.type1 d).ofFragmentNo := by
  cases g with
  | type1 d => exact .inr ⟨d, hg, rfl, hslot.trans (hs.of _ hg).symm⟩
  | type2 d => exact .inl ⟨d, hg, rfl⟩
  | type3 d =>
      have := (hs.type3_slot hg).1
      omega

theorem filled_plain {h : List Fragment} {b : Bucket} {blk : Block} (hp : Placed h b blk)
    (hplain : Plain h b blk) (hs : Slots h b) (hno3 : ∀ d, .type3 d ∉ h)
    (hall : ∀ k ≤ b.mOfFragmentNo, ∃ g ∈ h, g.slot = k) : Filled h blk 0 b.frameSize := by
  have htype1 : ∀ k < b.mOfFragmentNo, ∃ d, .type1 d ∈ h ∧ (Fragment.type1 d).slot = k := by
    intro k hk
    obtain ⟨g, hg, hslot⟩ := hall k (le_of_lt hk)
    cases g with
    | type1 d => exact ⟨d, hg, hslot⟩
    | type2 d =>
        have : (Fragment.type2 d).slot = b.mOfFragmentNo := hs.of _ hg
        omega
    | type3 d => exact absurd hg (hno3 d)
  have hlow := filled_slots hp hs htype1
  obtain ⟨g, hg, hslot⟩ := hall b.mOfFragmentNo (le_refl _)
  rcases last_slot hs hg hslot with ⟨d, hd, -⟩ | ⟨d, hd, rfl, hlast⟩
  · obtain ⟨hframe, hholds⟩ := hplain.type2 d hd
    rw [hframe]
    refine hlow.append (filled_of_holds hd hholds ?_)
    rw [Fragment.length_payload (hs.checked _ hd).1]
  · have hno2 : ∀ e, .type2 e ∉ h := fun e he =>
      absurd (hs.eq_of_slot he hd ((hs.of _ he).trans hslot.symm)) (by simp)
    rw [hplain.noType2 hno2]
    refine filled_slots hp hs fun k hk => ?_
    rcases Nat.lt_or_ge k b.mOfFragmentNo with hlt | hge
    · exact htype1 k hlt
    · exact ⟨d, hd, by omega⟩

/-- With a Type3, a complete frame is written from end to end unless it
leaves a hole. -/
theorem filled_split_iff {a c : List Fragment} {t : List UInt8} {b : Bucket} {blk : Block}
    (hp : Placed (a ++ .type3 t :: c) b blk) (hsplit : Split a t c b blk)
    (hs : Slots (a ++ .type3 t :: c) b)
    (hall : ∀ k ≤ b.mOfFragmentNo, ∃ g ∈ a ++ .type3 t :: c, g.slot = k) :
    Filled (a ++ .type3 t :: c) blk 0 b.frameSize ↔ ¬ Holed (a ++ .type3 t :: c) := by
  have ht : Fragment.type3 t ∈ a ++ .type3 t :: c := by simp
  obtain ⟨hpen, hle⟩ := hs.type3_slot ht
  have hF : (Fragment.type3 t).type1Size = b.mFragmentSize := hs.size _ ht (.inr (by simp))
  have hmem2 : ∀ d, (.type2 d ∈ a ++ .type3 t :: c ↔ .type2 d ∈ a ∨ .type2 d ∈ c) := by simp
  have hmem1 : ∀ d, (.type1 d ∈ a ++ .type3 t :: c ↔ .type1 d ∈ a ∨ .type1 d ∈ c) := by simp
  -- all there is before the end of the Type3
  have hlow : Filled (a ++ .type3 t :: c) blk 0
      (b.mFragmentSize * (Fragment.type3 t).slot + (Fragment.type3 t).size) := by
    refine (filled_slots hp hs fun k hk => ?_).append
      (filled_of_holds ht (hp _ ht (by simp)) ?_)
    · obtain ⟨g, hg, hslot⟩ := hall k (by omega)
      cases g with
      | type1 d => exact ⟨d, hg, hslot⟩
      | type2 d =>
          have : (Fragment.type2 d).slot = b.mOfFragmentNo := hs.of _ hg
          omega
      | type3 d =>
          have := (hs.type3_slot hg).1
          omega
    · rw [Fragment.length_payload (hs.checked _ ht).1]
  have hslots : b.mFragmentSize * b.mOfFragmentNo =
      b.mFragmentSize * (Fragment.type3 t).slot + b.mFragmentSize := by
    rw [← hpen, Nat.mul_succ]
  -- a hole is an unwritten cell right behind the Type3
  have hunfilled : (Fragment.type3 t).size < b.mFragmentSize → ¬ Lowered a t c →
      b.mFragmentSize * b.mOfFragmentNo ≤ b.frameSize →
      ¬ Filled (a ++ .type3 t :: c) blk 0 b.frameSize := by
    intro hlt hraised hframe hfilled
    obtain ⟨g, -, x, -, hcell⟩ := hfilled
      (b.mFragmentSize * (Fragment.type3 t).slot + (Fragment.type3 t).size) (Nat.zero_le _)
      (by omega)
    rw [hsplit.gap hraised _ (le_refl _) (by omega)] at hcell
    cases hcell
  -- the decomposition at the Type3 is unique
  have honly : ∀ a' t' c', a ++ .type3 t :: c = a' ++ .type3 t' :: c' →
      a' = a ∧ t' = t ∧ c' = c := by
    intro a' t' c' heq
    have ht' : Fragment.type3 t' ∈ a ++ .type3 t :: c := by rw [heq]; simp
    have htt : t' = t := Fragment.type3.inj (hs.eq_of_slot ht' ht (by
      have := (hs.type3_slot ht').1
      omega))
    subst htt
    have hnodup : (a ++ .type3 t' :: c).Nodup := hs.nodup.of_map
    have hnodup' : (a' ++ .type3 t' :: c').Nodup := heq ▸ hnodup
    have hna : Fragment.type3 t' ∉ a := fun hm =>
      (List.nodup_cons.mp (List.nodup_middle.mp hnodup)).1 (List.mem_append_left _ hm)
    have hna' : Fragment.type3 t' ∉ a' := fun hm =>
      (List.nodup_cons.mp (List.nodup_middle.mp hnodup')).1 (List.mem_append_left _ hm)
    rcases List.append_eq_append_iff.mp heq with ⟨m, rfl, hm⟩ | ⟨m, rfl, hm⟩
    · cases m with
      | nil => simpa using hm.symm
      | cons x m =>
          obtain ⟨rfl, -⟩ := List.cons.inj hm
          exact absurd (by simp) hna'
    · cases m with
      | nil => simpa using hm
      | cons x m =>
          obtain ⟨rfl, -⟩ := List.cons.inj hm
          exact absurd (by simp) hna
  by_cases htwo : ∃ d, .type2 d ∈ a ∨ .type2 d ∈ c
  · obtain ⟨d, hd⟩ := htwo
    have hd' := (hmem2 d).mpr hd
    have hlen := Fragment.length_payload (hs.checked _ hd').1
    have hno1 : ∀ e, Fragment.type1 e ∈ a ++ .type3 t :: c →
        (Fragment.type1 e).slot ≠ (Fragment.type1 e).ofFragmentNo := fun e he heq =>
      absurd (hs.eq_of_slot he hd' (heq.trans ((hs.of _ he).trans (hs.of _ hd').symm))) (by simp)
    have huniq : ∀ e, (.type2 e ∈ a ∨ .type2 e ∈ c) → e = d := fun e he =>
      Fragment.type2.inj (hs.eq_of_slot ((hmem2 e).mpr he) hd'
        ((hs.of _ ((hmem2 e).mpr he)).trans (hs.of _ hd').symm))
    by_cases hlowered : Lowered a t c
    · obtain ⟨hframe, hholds⟩ := hsplit.lowered hlowered d hd
      refine iff_of_true ?_ ?_
      · rw [hframe]
        exact hlow.append (filled_of_holds hd' hholds (by rw [hlen]))
      · rintro ⟨a', t', c', heq, -, hhole⟩
        obtain ⟨rfl, rfl, rfl⟩ := honly a' t' c' heq
        have hnodup := hs.nodup.of_map
        have hdisj : ∀ e, .type2 e ∈ a' → .type2 e ∉ c' := fun e hea hec =>
          (List.nodup_append.mp hnodup).2.2 _ hea _ (List.mem_cons_of_mem _ hec) rfl
        rcases hhole with ⟨hzero, e, he⟩ | ⟨e, he, hzero⟩ | ⟨e, he, heq⟩ | ⟨-, e, he, heq⟩
        · rcases hlowered with ⟨e', he', -⟩ | ⟨hpos, -⟩
          · obtain rfl := (huniq e (.inr he)).trans (huniq e' (.inl he')).symm
            exact hdisj _ he' he
          · omega
        · rcases hlowered with ⟨e', he', hpos⟩ | ⟨-, e', he'⟩
          · obtain rfl := (huniq e (.inl he)).trans (huniq e' (.inl he')).symm
            omega
          · obtain rfl := (huniq e (.inl he)).trans (huniq e' (.inr he')).symm
            exact hdisj _ he he'
        · exact hno1 e ((hmem1 e).mpr (.inl he)) heq
        · exact hno1 e ((hmem1 e).mpr (.inr he)) heq
    · obtain ⟨hframe, hholds⟩ := hsplit.raised hlowered d hd
      rcases Nat.lt_or_ge (Fragment.type3 t).size b.mFragmentSize with hlt | hge
      · refine iff_of_false (hunfilled hlt hlowered (by omega)) (not_not.mpr ?_)
        refine ⟨a, t, c, rfl, by omega, ?_⟩
        rcases hd with hd | hd
        · refine .inr (.inl ⟨d, hd, ?_⟩)
          by_contra hne
          exact hlowered (.inl ⟨d, hd, Nat.pos_of_ne_zero hne⟩)
        · refine .inl ⟨?_, d, hd⟩
          by_contra hne
          exact hlowered (.inr ⟨Nat.pos_of_ne_zero hne, d, hd⟩)
      · refine iff_of_true ?_ ?_
        · rw [hframe]
          have hlow' : Filled (a ++ .type3 t :: c) blk 0 (b.mFragmentSize * b.mOfFragmentNo) :=
            fun i hi hlt => hlow i hi (by omega)
          exact hlow'.append (filled_of_holds hd' hholds (by rw [hlen]))
        · rintro ⟨a', t', c', heq, hshort, -⟩
          obtain ⟨rfl, rfl, rfl⟩ := honly a' t' c' heq
          omega
  · have hno2 : ∀ d, .type2 d ∉ a ∧ .type2 d ∉ c := fun d =>
      ⟨fun hd => htwo ⟨d, .inl hd⟩, fun hd => htwo ⟨d, .inr hd⟩⟩
    have hraised : ¬ Lowered a t c := by
      rintro (⟨d, hd, -⟩ | ⟨-, d, hd⟩)
      · exact (hno2 d).1 hd
      · exact (hno2 d).2 hd
    obtain ⟨g, hg, hslot⟩ := hall b.mOfFragmentNo (le_refl _)
    rcases last_slot hs hg hslot with ⟨d, hd, -⟩ | ⟨d, hd, rfl, hlast⟩
    · exact absurd ⟨d, (hmem2 d).mp hd⟩ htwo
    by_cases hwhole : a = [] ∨ LastType1 a
    · have hframe := hsplit.whole hno2 hwhole
      rcases Nat.lt_or_ge (Fragment.type3 t).size b.mFragmentSize with hlt | hge
      · refine iff_of_false (hunfilled hlt hraised ?_) (not_not.mpr ?_)
        · rw [hframe, Nat.mul_succ]
          omega
        · refine ⟨a, t, c, rfl, by omega, .inr (.inr ?_)⟩
          rcases hwhole with rfl | hwhole
          · exact .inr ⟨rfl, d, by simpa using hd, hlast⟩
          · exact .inl hwhole
      · refine iff_of_true ?_ ?_
        · have hlow' : Filled (a ++ .type3 t :: c) blk 0 (b.mFragmentSize * b.mOfFragmentNo) :=
            fun i hi hlt => hlow i hi (by omega)
          rw [hframe, Nat.mul_succ]
          have hholds := hp _ hd (by simp)
          rw [hslot] at hholds
          refine hlow'.append (filled_of_holds hd hholds ?_)
          rw [Fragment.length_payload (hs.checked _ hd).1]
          exact Nat.add_le_add_left (le_of_eq (hs.size _ hd (.inr (by simp))).symm) _
        · rintro ⟨a', t', c', heq, hshort, -⟩
          obtain ⟨rfl, rfl, rfl⟩ := honly a' t' c' heq
          omega
    · obtain ⟨hne, hnlast⟩ := not_or.mp hwhole
      refine iff_of_true ?_ ?_
      · rw [hsplit.cut hno2 hne hnlast]
        exact hlow
      · rintro ⟨a', t', c', heq, -, hhole⟩
        obtain ⟨rfl, rfl, rfl⟩ := honly a' t' c' heq
        rcases hhole with ⟨-, e, he⟩ | ⟨e, he, -⟩ | hl | ⟨hnil, -⟩
        · exact (hno2 e).2 he
        · exact (hno2 e).1 he
        · exact hnlast hl
        · exact hne hnil

/-- A complete frame is written from end to end exactly if its fragments
leave no hole. -/
theorem Built.written_iff {B : BufferSize} {i : B.Index} {h : List Fragment} {b : Bucket}
    (hb : b.Built h) (hwf : b.WellFormed i) (hcomplete : b.complete = true) :
    b.delivered.Written h ↔ ¬ Holed h := by
  obtain ⟨blk, hblock, hlayout⟩ := hb.layout
  have hs := hb.slots
  have hall : ∀ k ≤ b.mOfFragmentNo, ∃ g ∈ h, g.slot = k := fun k hk =>
    exists_slot hs hwf hcomplete hk
  obtain ⟨f, hf, hdata⟩ := Option.bind_eq_some_iff.mp hblock
  have hwritten : b.delivered.Written h ↔ Filled h blk 0 b.frameSize := by
    simp only [SuperFrame.Written, Filled, delivered, deliveredFrame, frameSize, hf,
      Option.getD_some, hdata, Option.bind_some, Nat.zero_le, true_implies]
  rw [hwritten]
  by_cases hno3 : ∀ d, .type3 d ∉ h
  · refine iff_of_true (filled_plain hlayout.placed (hlayout.plain hno3) hs hno3 hall) ?_
    rintro ⟨a, t, c, rfl, -⟩
    exact hno3 t (by simp)
  · obtain ⟨t, ht⟩ := not_forall_not.mp hno3
    obtain ⟨a, c, rfl⟩ := List.append_of_mem ht
    exact filled_split_iff hlayout.placed (hlayout.split a t c rfl) hs hall

end Bucket

/-- In every run, a frame delivered as complete has every byte written by one
of its fragments exactly if they leave no hole. -/
theorem Traced.written_iff_of_delivered (B : BufferSize) (cfg : ReceiverConfig)
    (es : List Event) :
    (Traced.ofEvents B cfg es).2.map Prod.fst =
        Receiver.deliveries ((Receiver.system B cfg).run (Receiver.fresh B) es).2 ∧
      ∀ d h, (d, h) ∈ (Traced.ofEvents B cfg es).2 → d.frame.mBroken = false →
        (d.frame.Written h ↔ ¬ Holed h) := by
  refine ⟨(Traced.ofEvents_receiver B cfg es).2, fun d h hd hbroken => ?_⟩
  obtain ⟨b, hb, hwf, hframe⟩ := Traced.delivered_run Traced.faithful_fresh cfg _ (d, h) hd
  have hcomplete : b.complete = true := by
    have hb' : b.delivered.mBroken = false := hframe ▸ hbroken
    simpa [Bucket.delivered, Bucket.deliveredFrame] using hb'
  rw [hframe]
  exact hb.written_iff hwf hcomplete

/-- An empty Type3, and the Type2 that completes the frame: the receiver is
given both, then makes a pass. -/
def holeRun : List Event :=
  let lType3 : FrameType3 :=
    { mFrameType := makeFrameTypeByte .type3 0
      mStreamId := 0
      mSuperFrameNo := 0
      mType1PacketSize := 1
      mOfFragmentNo := 1 }
  [.receive Sample.env Sample.clk lType3.bytes 0,
    .receive Sample.env Sample.clk (Sample.type2 0 1 1 [7]) 0, .worker Sample.clk]

/-- The delivered frame is not broken and has two bytes, of which the first
has never been written. -/
theorem Traced.holeRun_not_written :
    ∃ d h, (d, h) ∈ (Traced.ofEvents .default {} holeRun).2 ∧ d.frame.mBroken = false ∧
      ¬ d.frame.Written h := by
  have hrun : (Traced.ofEvents .default {} holeRun).2.map
      (fun o => (o.1.frame.mBroken, o.1.frame.data)) = [(false, [none, some 7])] := rfl
  obtain ⟨o, ho, heq⟩ := List.mem_map.mp (hrun ▸ List.mem_singleton_self _)
  obtain ⟨hbroken, hdata⟩ := Prod.mk.inj heq
  refine ⟨o.1, o.2, ho, hbroken, fun hwritten => ?_⟩
  have hnone : none ∈ o.1.frame.data := by
    rw [hdata]
    simp
  obtain ⟨i, hi, hcell⟩ := List.mem_map.mp hnone
  obtain ⟨-, -, x, -, hsome⟩ := hwritten i (List.mem_range.mp hi)
  rw [hcell] at hsome
  cases hsome

end ElasticFrame
