import ElasticFrame.Receiver.MemorySafety

/-!
Where the accepted fragments lie in the frame.

A Type1 lies in the slot of its index and a Type3 in the slot before the last.
The Type2 lies in the last slot, unless a Type3 has been accepted: then it is
moved, or put from the start, to the end of the Type3. `Lowered` says when.
While it is not lowered, what the Type3 leaves of its slot stays unwritten.
-/

namespace ElasticFrame

open Lib

namespace Bucket

/-- Bitset, sizes and checks in terms of the accepted fragments. -/
structure Slots (h : List Fragment) (b : Bucket) : Prop where
  received : b.mReceivedFragments = (h.map Fragment.slot).toFinset
  nodup : (h.map Fragment.slot).Nodup
  of : ∀ g ∈ h, g.ofFragmentNo = b.mOfFragmentNo
  size : ∀ g ∈ h, (0 < b.mOfFragmentNo ∨ ∀ d, g ≠ .type2 d) → g.type1Size = b.mFragmentSize
  checked : ∀ g ∈ h, g.Admissible ∧ g.check = none
  type2 : ∀ d, .type2 d ∈ h → b.mType2Size = (Fragment.type2 d).size
  noType2 : (∀ d, .type2 d ∉ h) → b.mType2Size = 0
  type3 : ∀ d, .type3 d ∈ h → b.mType3Size = (Fragment.type3 d).size
  noType3 : (∀ d, .type3 d ∉ h) → b.mType3Size = 0

theorem Slots.mem_received {h : List Fragment} {b : Bucket} (hs : Slots h b) {k : ℕ} :
    k ∈ b.mReceivedFragments ↔ ∃ g ∈ h, g.slot = k := by
  rw [hs.received, List.mem_toFinset, List.mem_map]

theorem Slots.eq_of_slot {h : List Fragment} {b : Bucket} (hs : Slots h b) {g g' : Fragment}
    (hg : g ∈ h) (hg' : g' ∈ h) (hslot : g.slot = g'.slot) : g = g' :=
  List.inj_on_of_nodup_map hs.nodup hg hg' hslot

/-- A fragment for a free slot leaves the sizes of the other kinds alone. -/
theorem fill_sizes (b : Bucket) (f : Fragment) :
    (b.fill f).mType2Size = (match f with | .type2 _ => f.size | _ => b.mType2Size) ∧
      (b.fill f).mType3Size = (match f with | .type3 _ => f.size | _ => b.mType3Size) := by
  cases f <;> exact ⟨rfl, rfl⟩

theorem slots_opened (b : Bucket) (cfg : ReceiverConfig) (now lOrder : ℤ) (src : UInt8)
    (s : Stream) {f : Fragment} (hadm : f.Admissible) (hcheck : f.check = none) :
    Slots [f] (b.openedWith cfg now lOrder (f.opening src s) f.packet) where
  received := rfl
  nodup := by simp
  of g hg := by rw [List.mem_singleton.mp hg]; rfl
  size g hg _ := by rw [List.mem_singleton.mp hg]; rfl
  checked g hg := by rw [List.mem_singleton.mp hg]; exact ⟨hadm, hcheck⟩
  type2 d hd := by rw [← List.mem_singleton.mp hd]; rfl
  noType2 hno := by
    cases f with
    | type1 d => rfl
    | type2 d => exact absurd (List.mem_singleton_self _) (hno d)
    | type3 d => rfl
  type3 d hd := by rw [← List.mem_singleton.mp hd]; rfl
  noType3 hno := by
    cases f with
    | type1 d => rfl
    | type2 d => rfl
    | type3 d => exact absurd (List.mem_singleton_self _) (hno d)

theorem Slots.fill {h : List Fragment} {b : Bucket} (hs : Slots h b) {f : Fragment}
    {src : UInt8} (hadm : f.Admissible) (hcheck : f.check = none) (hfits : f.Fits src b) :
    Slots (h ++ [f]) (b.fill f) := by
  obtain ⟨-, -, -, hof, hF, -, -, hreceived, -⟩ := b.fill_fields f
  obtain ⟨h2, h3⟩ := b.fill_sizes f
  have hfree : ∀ g ∈ h, g.slot ≠ f.slot := fun g hg hgf =>
    hfits.slot (hs.mem_received.mpr ⟨g, hg, hgf⟩)
  refine ⟨?_, ?_, ?_, ?_, ?_, ?_, ?_, ?_, ?_⟩
  · rw [hreceived, hs.received]
    ext k
    simp
  · rw [List.map_append, List.nodup_append]
    refine ⟨hs.nodup, by simp, fun k hk k' hk' => ?_⟩
    obtain ⟨g, hg, rfl⟩ := List.mem_map.mp hk
    rw [List.mem_singleton.mp hk']
    exact hfree g hg
  · rw [hof]
    intro g hg
    rcases List.mem_append.mp hg with hg | hg
    · exact hs.of g hg
    · rw [List.mem_singleton.mp hg, hfits.ofFragmentNo]
  · rw [hof, hF]
    intro g hg hor
    rcases List.mem_append.mp hg with hg | hg
    · exact hs.size g hg hor
    · rw [List.mem_singleton.mp hg] at hor ⊢
      exact hfits.type1Size (by rwa [hfits.ofFragmentNo])
  · intro g hg
    rcases List.mem_append.mp hg with hg | hg
    · exact hs.checked g hg
    · rw [List.mem_singleton.mp hg]
      exact ⟨hadm, hcheck⟩
  · intro d hd
    rcases List.mem_append.mp hd with hold | hnew
    · have h2' := hs.type2 d hold
      cases f with
      | type1 e => exact h2.trans h2'
      | type2 e =>
          have hslot : (Fragment.type2 d).slot = (Fragment.type2 e).slot :=
            (hs.of _ hold).trans hfits.ofFragmentNo.symm
          exact absurd hslot (hfree _ hold)
      | type3 e => exact h2.trans h2'
    · obtain rfl := List.mem_singleton.mp hnew
      exact h2
  · intro hno
    have hold := hs.noType2 fun d hd => hno d (List.mem_append_left _ hd)
    cases f with
    | type1 e => exact h2.trans hold
    | type2 e => exact absurd (by simp) (hno e)
    | type3 e => exact h2.trans hold
  · intro d hd
    rcases List.mem_append.mp hd with hold | hnew
    · have h3' := hs.type3 d hold
      cases f with
      | type1 e => exact h3.trans h3'
      | type2 e => exact h3.trans h3'
      | type3 e =>
          have hslot : (Fragment.type3 d).slot = (Fragment.type3 e).slot :=
            congrArg (fun n => n - 1) ((hs.of _ hold).trans hfits.ofFragmentNo.symm)
          exact absurd hslot (hfree _ hold)
    · obtain rfl := List.mem_singleton.mp hnew
      exact h3
  · intro hno
    have hold := hs.noType3 fun d hd => hno d (List.mem_append_left _ hd)
    cases f with
    | type1 e => exact h3.trans hold
    | type2 e => exact h3.trans hold
    | type3 e => exact absurd (by simp) (hno e)

theorem Built.slots {h : List Fragment} {b : Bucket} (hb : b.Built h) : b.Slots h := by
  induction hb with
  | opened admissible check alloc => exact slots_opened _ _ _ _ _ _ admissible check
  | filled built admissible check fits ih => exact ih.fill admissible check fits

/-! ### Sizes and positions -/

theorem Slots.type2_of_pos {h : List Fragment} {b : Bucket} (hs : Slots h b)
    (hpos : 0 < b.mType2Size) : ∃ d, .type2 d ∈ h := by
  by_contra hno
  rw [hs.noType2 (not_exists.mp hno)] at hpos
  exact absurd hpos (lt_irrefl 0)

theorem Slots.type3_of_pos {h : List Fragment} {b : Bucket} (hs : Slots h b)
    (hpos : 0 < b.mType3Size) : ∃ d, .type3 d ∈ h := by
  by_contra hno
  rw [hs.noType3 (not_exists.mp hno)] at hpos
  exact absurd hpos (lt_irrefl 0)

/-- The slot of a Type3 is the one before the last, and it fits there. -/
theorem Slots.type3_slot {h : List Fragment} {b : Bucket} (hs : Slots h b) {t : List UInt8}
    (ht : .type3 t ∈ h) : (Fragment.type3 t).slot + 1 = b.mOfFragmentNo ∧
      (Fragment.type3 t).size ≤ b.mFragmentSize := by
  obtain ⟨hpos, hle⟩ := Fragment.type3_checked (hs.checked _ ht).2
  refine ⟨?_, (hs.size _ ht (.inr (by simp))) ▸ hle⟩
  rw [← hs.of _ ht]
  simp only [Fragment.slot, Fragment.ofFragmentNo] at hpos ⊢
  omega

theorem Slots.size_le {h : List Fragment} {b : Bucket} (hs : Slots h b) {g : Fragment}
    (hg : g ∈ h) (hne : ∀ d, g ≠ .type2 d) : g.size ≤ b.mFragmentSize := by
  cases g with
  | type1 d => exact le_of_eq (hs.size _ hg (.inr hne))
  | type2 d => exact absurd rfl (hne d)
  | type3 d => exact (hs.type3_slot hg).2

theorem Slots.slot_le {h : List Fragment} {b : Bucket} (hs : Slots h b) {g : Fragment}
    (hg : g ∈ h) : g.slot ≤ b.mOfFragmentNo :=
  hs.of g hg ▸ (hs.checked g hg).1.slot_le

theorem type3_fits {b : Bucket} {t : List UInt8} {src : UInt8}
    (hcheck : (Fragment.type3 t).check = none) (hfits : (Fragment.type3 t).Fits src b) :
    (Fragment.type3 t).slot + 1 = b.mOfFragmentNo ∧
      (Fragment.type3 t).size ≤ b.mFragmentSize := by
  obtain ⟨hpos, hle⟩ := Fragment.type3_checked hcheck
  refine ⟨?_, (hfits.type1Size (.inr (by simp))) ▸ hle⟩
  rw [← hfits.ofFragmentNo]
  simp only [Fragment.slot, Fragment.ofFragmentNo] at hpos ⊢
  omega

/-- A Type3 moves the Type2 exactly if one with a payload is there. -/
theorem Slots.moves_iff {h : List Fragment} {b : Bucket} (hs : Slots h b) {t : List UInt8}
    {src : UInt8} (hcheck : (Fragment.type3 t).check = none)
    (hfits : (Fragment.type3 t).Fits src b) :
    b.Moves (.type3 t) ↔ ∃ d, .type2 d ∈ h ∧ 0 < (Fragment.type2 d).size := by
  obtain ⟨hslot, -⟩ := type3_fits hcheck hfits
  constructor
  · rintro ⟨-, hpos⟩
    obtain ⟨d, hd⟩ := hs.type2_of_pos hpos
    exact ⟨d, hd, hs.type2 d hd ▸ hpos⟩
  · rintro ⟨d, hd, hpos⟩
    refine ⟨Finset.mem_insert_of_mem (hs.mem_received.mpr ⟨_, hd, ?_⟩), hs.type2 d hd ▸ hpos⟩
    rw [hfits.ofFragmentNo]
    exact hs.of _ hd

/-- Where a Type2 that fits the bucket goes: behind a Type3 with a payload,
else to the last slot. -/
theorem Slots.type2_offset {h : List Fragment} {b : Bucket} (hs : Slots h b)
    (hsingle : b.mOfFragmentNo = 0 → 0 ∈ b.mReceivedFragments) {d : List UInt8} {src : UInt8}
    (hfits : (Fragment.type2 d).Fits src b) :
    0 < b.mOfFragmentNo ∧
    ((∃ t, .type3 t ∈ h ∧ 0 < (Fragment.type3 t).size ∧
        Receiver.type2Offset b (FrameType2.read d) =
          b.mFragmentSize * (Fragment.type3 t).slot + (Fragment.type3 t).size) ∨
      ((∀ t, .type3 t ∈ h → (Fragment.type3 t).size = 0) ∧
        Receiver.type2Offset b (FrameType2.read d) = b.mFragmentSize * b.mOfFragmentNo)) ∧
    Receiver.type2ActualSize b (FrameType2.read d) =
      Receiver.type2Offset b (FrameType2.read d) + (Fragment.type2 d).size := by
  have hof : (FrameType2.read d).mOfFragmentNo.toNat = b.mOfFragmentNo := hfits.ofFragmentNo
  have hpos : 0 < b.mOfFragmentNo := by
    rcases Nat.eq_zero_or_pos b.mOfFragmentNo with h0 | hpos
    · have hfree := hfits.slot
      rw [show (Fragment.type2 d).slot = b.mOfFragmentNo from hof, h0] at hfree
      exact absurd (hsingle h0) hfree
    · exact hpos
  have hT : (FrameType2.read d).mType1PacketSize.toNat = b.mFragmentSize :=
    hfits.type1Size (.inl (hfits.ofFragmentNo ▸ hpos))
  refine ⟨hpos, ?_, ?_⟩
  · rcases Nat.eq_zero_or_pos b.mType3Size with h3 | h3
    · exact .inr ⟨fun t ht => (hs.type3 t ht).symm.trans h3, by
        simp [Receiver.type2Offset, h3, hT, hof]⟩
    · obtain ⟨t, ht⟩ := hs.type3_of_pos h3
      have hslot := (hs.type3_slot ht).1
      refine .inl ⟨t, ht, hs.type3 t ht ▸ h3, ?_⟩
      have hslot' : b.mOfFragmentNo - 1 = (Fragment.type3 t).slot := by omega
      rw [Receiver.type2Offset, if_pos h3, hof, hslot', hs.type3 t ht]
  · simp only [Receiver.type2ActualSize, Receiver.type2Offset, hT, Fragment.size]
    split_ifs <;> rfl

/-! ### Type1 and Type3 lie in their slots -/

theorem holds_written {f : Fragment} (hadm : f.Admissible) (blk : Block) (dst : ℕ) :
    (blk.memcpy dst f.packet f.headerSize f.size).Holds dst f.payload := by
  have hsize : f.size = f.packet.length - f.headerSize := by
    rw [hadm.length_packet]
    omega
  rw [hsize]
  exact blk.holds_memcpy dst f.packet f.headerSize

def Placed (h : List Fragment) (b : Bucket) (blk : Block) : Prop :=
  ∀ g ∈ h, (∀ d, g ≠ .type2 d) → blk.Holds (b.mFragmentSize * g.slot) g.payload

theorem slot_disjoint {F k k' n n' : ℕ} (hne : k ≠ k') (hn : n ≤ F) (hn' : n' ≤ F) :
    F * k + n ≤ F * k' ∨ F * k' + n' ≤ F * k := by
  rcases Nat.lt_or_gt_of_ne hne with hlt | hgt
  · exact .inl (mul_add_le_of_lt hlt hn)
  · exact .inr (mul_add_le_of_lt hgt hn')

theorem Placed.fill {h : List Fragment} {b : Bucket} {blk : Block} (hp : Placed h b blk)
    (hs : Slots h b) (hsingle : b.mOfFragmentNo = 0 → 0 ∈ b.mReceivedFragments)
    {f : Fragment} {src : UInt8} (hadm : f.Admissible) (hcheck : f.check = none)
    (hfits : f.Fits src b) : Placed (h ++ [f]) (b.fill f) (b.fillBlock blk f) := by
  obtain ⟨-, -, -, -, hF, -, -, -, -⟩ := b.fill_fields f
  intro g hg hne
  rw [hF]
  rcases List.mem_append.mp hg with hold | hnew
  · have hholds := hp g hold hne
    have hlen : g.payload.length = g.size := Fragment.length_payload (hs.checked g hold).1
    have hle := hs.size_le hold hne
    have hslot : g.slot ≠ f.slot := fun hgf =>
      hfits.slot (hs.mem_received.mpr ⟨g, hold, hgf⟩)
    have hbelow := hs.slot_le hold
    cases f with
    | type1 d =>
        have hT : (Fragment.type1 d).size = b.mFragmentSize := hfits.type1Size (.inr (by simp))
        refine hholds.memcpy ?_
        rw [hlen]
        exact slot_disjoint hslot hle (le_of_eq hT)
    | type2 d =>
        have hlast : (Fragment.type2 d).slot = b.mOfFragmentNo := hfits.ofFragmentNo
        obtain ⟨-, hoffset, -⟩ := hs.type2_offset hsingle hfits
        refine hholds.memcpy (.inl ?_)
        rw [hlen]
        rcases hoffset with ⟨t, ht, -, hoff⟩ | ⟨-, hoff⟩
        · rw [hoff]
          by_cases hgt : g = .type3 t
          · rw [hgt]
          · have hpen := (hs.type3_slot ht).1
            have hslot3 : g.slot ≠ (Fragment.type3 t).slot := fun heq =>
              hgt (hs.eq_of_slot hold ht heq)
            have hlow := mul_add_le_of_lt
              (show g.slot < (Fragment.type3 t).slot by omega) hle
            omega
        · rw [hoff]
          exact mul_add_le_of_lt (by omega) hle
    | type3 d =>
        obtain ⟨hpen, hsize⟩ := type3_fits hcheck hfits
        have hmoved : ((if b.Moves (.type3 d) then
            blk.memmove (b.mFragmentSize * (Fragment.type3 d).slot + (Fragment.type3 d).size)
              (b.mFragmentSize * (Fragment.type3 d).ofFragmentNo) b.mType2Size
            else blk)).Holds (b.mFragmentSize * g.slot) g.payload := by
          split_ifs with hmoves
          · obtain ⟨e, he, -⟩ := (hs.moves_iff hcheck hfits).mp hmoves
            have hlast : g.slot ≠ b.mOfFragmentNo := fun heq =>
              hne e (hs.eq_of_slot hold he (heq.trans (hs.of _ he).symm))
            refine hholds.memmove (.inl ?_)
            rw [hlen]
            have hlow := mul_add_le_of_lt
              (show g.slot < (Fragment.type3 d).slot by omega) hle
            omega
          · exact hholds
        refine hmoved.memcpy ?_
        rw [hlen]
        exact slot_disjoint hslot hle hsize
  · rw [List.mem_singleton.mp hnew] at hne ⊢
    cases f with
    | type1 d => exact holds_written hadm _ _
    | type2 d => exact absurd rfl (hne d)
    | type3 d => exact holds_written hadm _ _

theorem placed_opened (b : Bucket) (cfg : ReceiverConfig) (now lOrder : ℤ) (src : UInt8)
    (s : Stream) {f : Fragment} (hadm : f.Admissible) (blk : Block) :
    Placed [f] (b.openedWith cfg now lOrder (f.opening src s) f.packet)
      (blk.memcpy (f.type1Size * f.slot) f.packet f.headerSize f.size) := by
  intro g hg _
  rw [List.mem_singleton.mp hg]
  exact holds_written hadm _ _

/-! ### Before a Type3 -/

/-- No cell of `[lo, hi)` has been written. -/
def Gap (blk : Block) (lo hi : ℕ) : Prop := ∀ i, lo ≤ i → i < hi → blk.cell i = none

theorem Gap.memcpy {blk : Block} {lo hi : ℕ} (hgap : Gap blk lo hi) {dst : ℕ}
    {bytes : List UInt8} {src len : ℕ} (hdisj : hi ≤ dst ∨ dst + len ≤ lo) :
    Gap (blk.memcpy dst bytes src len) lo hi := by
  intro i hlo hhi
  rw [Block.cell_memcpy_of_outside (by omega)]
  exact hgap i hlo hhi

theorem Gap.mono {blk : Block} {lo lo' hi : ℕ} (hgap : Gap blk lo hi) (hle : lo ≤ lo') :
    Gap blk lo' hi :=
  fun i hlo hhi => hgap i (hle.trans hlo) hhi

/-- The last slot while no Type3 has been accepted. -/
structure Plain (h : List Fragment) (b : Bucket) (blk : Block) : Prop where
  type2 : ∀ d, .type2 d ∈ h →
    b.frameSize = b.mFragmentSize * b.mOfFragmentNo + (Fragment.type2 d).size ∧
      blk.Holds (b.mFragmentSize * b.mOfFragmentNo) (Fragment.type2 d).payload
  noType2 : (∀ d, .type2 d ∉ h) → b.frameSize = b.mFragmentSize * (b.mOfFragmentNo + 1)
  gap : b.mOfFragmentNo - 1 ∉ b.mReceivedFragments →
    Gap blk (b.mFragmentSize * (b.mOfFragmentNo - 1)) (b.mFragmentSize * b.mOfFragmentNo)

theorem plain_opened (b : Bucket) (cfg : ReceiverConfig) (now lOrder : ℤ) (src : UInt8)
    (s : Stream) {f : Fragment} (hadm : f.Admissible) (hpos : 0 < f.totalSize)
    (hne : ∀ d, f ≠ .type3 d) :
    Plain [f] (b.openedWith cfg now lOrder (f.opening src s) f.packet)
      ((Block.alloc f.totalSize).memcpy (f.type1Size * f.slot) f.packet f.headerSize f.size) := by
  obtain ⟨-, hsize⟩ := b.block_openedWith cfg now lOrder (f.opening src s) f.packet hpos
  refine ⟨fun d hd => ?_, fun hno => ?_, fun hpen => ?_⟩
  · obtain rfl := List.mem_singleton.mp hd
    exact ⟨hsize, holds_written hadm _ _⟩
  · cases f with
    | type1 d => exact hsize
    | type2 d => exact absurd (List.mem_singleton_self _) (hno d)
    | type3 d => exact absurd rfl (hne d)
  · change f.ofFragmentNo - 1 ∉ ({f.slot} : Finset ℕ) at hpen
    rw [Finset.mem_singleton] at hpen
    have hle := hadm.slot_le
    refine Gap.memcpy (fun i _ _ => rfl) ?_
    cases f with
    | type1 d =>
        rcases Nat.lt_or_ge (Fragment.type1 d).slot (Fragment.type1 d).ofFragmentNo with hlt | hge
        · exact .inr (mul_add_le_of_lt (show _ < (Fragment.type1 d).ofFragmentNo - 1 by omega)
            (le_refl _))
        · exact .inl (Nat.mul_le_mul_left _ hge)
    | type2 d => exact .inl (le_refl _)
    | type3 d => exact absurd rfl (hne d)

theorem Plain.fill {h : List Fragment} {b : Bucket} {blk : Block} (hp : Plain h b blk)
    (hs : Slots h b) (hblock : b.block = some blk)
    (hsingle : b.mOfFragmentNo = 0 → 0 ∈ b.mReceivedFragments) (hno3 : ∀ d, .type3 d ∉ h)
    {f : Fragment} {src : UInt8} (hadm : f.Admissible) (hfits : f.Fits src b)
    (hne : ∀ d, f ≠ .type3 d) : Plain (h ++ [f]) (b.fill f) (b.fillBlock blk f) := by
  obtain ⟨-, -, -, hof, hF, -, -, hreceived, -⟩ := b.fill_fields f
  have hsize := (Bucket.block_fill f hblock).2
  cases f with
  | type1 d =>
      have hT : (Fragment.type1 d).size = b.mFragmentSize := hfits.type1Size (.inr (by simp))
      have hle : (Fragment.type1 d).slot ≤ b.mOfFragmentNo :=
        hfits.ofFragmentNo ▸ hadm.slot_le
      refine ⟨fun e he => ?_, fun hno => ?_, ?_⟩
      · have he : .type2 e ∈ h := by simpa using he
        obtain ⟨hframe, hholds⟩ := hp.type2 e he
        rw [hF, hof, hsize]
        refine ⟨hframe, hholds.memcpy (.inr ?_)⟩
        have hslot : (Fragment.type1 d).slot ≠ b.mOfFragmentNo := fun heq =>
          hfits.slot (hs.mem_received.mpr ⟨_, he, (hs.of _ he).trans heq.symm⟩)
        exact mul_add_le_of_lt (by omega) (le_of_eq hT)
      · rw [hF, hof, hsize]
        exact hp.noType2 fun e he => hno e (List.mem_append_left _ he)
      · rw [hF, hof, hreceived]
        intro hpen
        obtain ⟨hslot, hpen⟩ := not_or.mp (Finset.mem_insert.not.mp hpen)
        refine (hp.gap hpen).memcpy ?_
        rcases Nat.lt_or_ge (Fragment.type1 d).slot b.mOfFragmentNo with hlt | hge
        · exact .inr (mul_add_le_of_lt (by omega) (le_of_eq hT))
        · exact .inl (Nat.mul_le_mul_left _ hge)
  | type2 d =>
      have hlast : (Fragment.type2 d).slot = b.mOfFragmentNo := hfits.ofFragmentNo
      obtain ⟨-, hoffset, hactual⟩ := hs.type2_offset hsingle hfits
      have hoff : Receiver.type2Offset b (FrameType2.read d) =
          b.mFragmentSize * b.mOfFragmentNo := by
        rcases hoffset with ⟨t, ht, -⟩ | ⟨-, hoff⟩
        · exact absurd ht (hno3 t)
        · exact hoff
      refine ⟨fun e he => ?_, fun hno => ?_, ?_⟩
      · rw [hF, hof, hsize]
        rcases List.mem_append.mp he with hold | hnew
        · exact absurd (hs.mem_received.mpr ⟨_, hold, (hs.of _ hold).trans hlast.symm⟩) hfits.slot
        · obtain rfl := Fragment.type2.inj (List.mem_singleton.mp hnew)
          refine ⟨hactual.trans (by rw [hoff]), ?_⟩
          rw [← hoff]
          exact holds_written hadm _ _
      · exact absurd (by simp) (hno d)
      · rw [hF, hof, hreceived]
        intro hpen
        exact (hp.gap (not_or.mp (Finset.mem_insert.not.mp hpen)).2).memcpy
          (.inl (le_of_eq hoff.symm))
  | type3 d => exact absurd rfl (hne d)

/-! ### After a Type3 -/

/-- The Type2 lies behind the Type3 instead of in the last slot: it had a
payload when the Type3 arrived, or came later than a Type3 with one. -/
def Lowered (a : List Fragment) (t : List UInt8) (c : List Fragment) : Prop :=
  (∃ d, .type2 d ∈ a ∧ 0 < (Fragment.type2 d).size) ∨
    (0 < (Fragment.type3 t).size ∧ ∃ d, .type2 d ∈ c)

/-- A Type1 with the index of the last fragment. -/
def LastType1 (h : List Fragment) : Prop :=
  ∃ d, .type1 d ∈ h ∧ (Fragment.type1 d).slot = (Fragment.type1 d).ofFragmentNo

/-- The end of the frame once the Type3 `t` has been accepted after `a` and
before `c`. -/
structure Split (a : List Fragment) (t : List UInt8) (c : List Fragment) (b : Bucket)
    (blk : Block) : Prop where
  lowered : Lowered a t c → ∀ d, (.type2 d ∈ a ∨ .type2 d ∈ c) →
    b.frameSize = b.mFragmentSize * (Fragment.type3 t).slot + (Fragment.type3 t).size +
        (Fragment.type2 d).size ∧
      blk.Holds (b.mFragmentSize * (Fragment.type3 t).slot + (Fragment.type3 t).size)
        (Fragment.type2 d).payload
  raised : ¬ Lowered a t c → ∀ d, (.type2 d ∈ a ∨ .type2 d ∈ c) →
    b.frameSize = b.mFragmentSize * b.mOfFragmentNo + (Fragment.type2 d).size ∧
      blk.Holds (b.mFragmentSize * b.mOfFragmentNo) (Fragment.type2 d).payload
  gap : ¬ Lowered a t c →
    Gap blk (b.mFragmentSize * (Fragment.type3 t).slot + (Fragment.type3 t).size)
      (b.mFragmentSize * b.mOfFragmentNo)
  /-- Without a Type2 the size is that of the allocation, unless a Type3 that
  finds the last slot empty has cut it down. -/
  whole : (∀ d, .type2 d ∉ a ∧ .type2 d ∉ c) → a = [] ∨ LastType1 a →
    b.frameSize = b.mFragmentSize * (b.mOfFragmentNo + 1)
  cut : (∀ d, .type2 d ∉ a ∧ .type2 d ∉ c) → a ≠ [] → ¬ LastType1 a →
    b.frameSize = b.mFragmentSize * (Fragment.type3 t).slot + (Fragment.type3 t).size

theorem split_opened (b : Bucket) (cfg : ReceiverConfig) (now lOrder : ℤ) (src : UInt8)
    (s : Stream) (t : List UInt8) (hpos : 0 < (Fragment.type3 t).totalSize) :
    Split [] t []
      (b.openedWith cfg now lOrder ((Fragment.type3 t).opening src s) (Fragment.type3 t).packet)
      ((Block.alloc (Fragment.type3 t).totalSize).memcpy
        ((Fragment.type3 t).type1Size * (Fragment.type3 t).slot) (Fragment.type3 t).packet
        (Fragment.type3 t).headerSize (Fragment.type3 t).size) := by
  obtain ⟨-, hsize⟩ := b.block_openedWith cfg now lOrder ((Fragment.type3 t).opening src s)
    (Fragment.type3 t).packet hpos
  refine ⟨fun _ d hd => by simp at hd, fun _ d hd => by simp at hd, fun _ => ?_,
    fun _ _ => hsize, fun _ hne => absurd rfl hne⟩
  exact Gap.memcpy (fun i _ _ => rfl) (.inr (le_refl _))

/-- The Type3 itself: it moves the Type2 up to its end, or cuts the frame. -/
theorem Plain.fill_type3 {h : List Fragment} {b : Bucket} {blk : Block} (hp : Plain h b blk)
    (hs : Slots h b) (hne : h ≠ []) (hblock : b.block = some blk) {t : List UInt8} {src : UInt8}
    (hcheck : (Fragment.type3 t).check = none)
    (hfits : (Fragment.type3 t).Fits src b) :
    Split h t [] (b.fill (.type3 t)) (b.fillBlock blk (.type3 t)) := by
  obtain ⟨-, -, -, hof, hF, -, -, -, -⟩ := b.fill_fields (.type3 t)
  have hsize : (b.fill (.type3 t)).frameSize =
      if b.Moves (.type3 t) then
        b.mFragmentSize * (Fragment.type3 t).slot + (Fragment.type3 t).size + b.mType2Size
      else if (Fragment.type3 t).ofFragmentNo ∉
          insert (Fragment.type3 t).slot b.mReceivedFragments then
        b.mFragmentSize * (Fragment.type3 t).slot + (Fragment.type3 t).size
      else b.frameSize := (Bucket.block_fill _ hblock).2
  obtain ⟨hslot, hle⟩ := type3_fits hcheck hfits
  have hpen : b.mOfFragmentNo - 1 = (Fragment.type3 t).slot := by omega
  have hend : b.mFragmentSize * (Fragment.type3 t).slot + (Fragment.type3 t).size ≤
      b.mFragmentSize * b.mOfFragmentNo := mul_add_le_of_lt (by omega) hle
  have hgap := hp.gap (hpen ▸ hfits.slot)
  rw [hpen] at hgap
  have hlowered : Lowered h t [] ↔ b.Moves (.type3 t) := by
    rw [hs.moves_iff hcheck hfits]
    simp [Lowered]
  -- the last slot is taken by a Type2 or by a Type1
  have hlast : (Fragment.type3 t).ofFragmentNo ∈
      insert (Fragment.type3 t).slot b.mReceivedFragments ↔
        (∃ d, .type2 d ∈ h) ∨ LastType1 h := by
    rw [hfits.ofFragmentNo, Finset.mem_insert, hs.mem_received]
    constructor
    · rintro (heq | ⟨g, hg, hgs⟩)
      · omega
      · cases g with
        | type1 d => exact .inr ⟨d, hg, hgs.trans (hs.of _ hg).symm⟩
        | type2 d => exact .inl ⟨d, hg⟩
        | type3 d =>
            have := (hs.type3_slot hg).1
            omega
    · rintro (⟨d, hd⟩ | ⟨d, hd, hds⟩)
      · exact .inr ⟨_, hd, hs.of _ hd⟩
      · exact .inr ⟨_, hd, hds.trans (hs.of _ hd)⟩
  refine ⟨fun hlow d hd => ?_, fun hraised d hd => ?_, fun hraised => ?_, fun hno hwhole => ?_,
    fun hno _ hcut => ?_⟩
  · have hd : .type2 d ∈ h := by simpa using hd
    have hmoves := hlowered.mp hlow
    rw [hF, hsize, if_pos hmoves, hs.type2 d hd]
    refine ⟨rfl, ?_⟩
    have hlen : (Fragment.type2 d).payload.length = b.mType2Size := by
      rw [hs.type2 d hd]
      exact Fragment.length_payload (hs.checked _ hd).1
    simp only [fillBlock, if_pos hmoves]
    refine Block.Holds.memcpy ?_ (.inr (le_refl _))
    rw [← hlen, hfits.ofFragmentNo]
    exact (hp.type2 d hd).2.moved _
  · have hd : .type2 d ∈ h := by simpa using hd
    have hmoves := hlowered.not.mp hraised
    rw [hF, hof, hsize, if_neg hmoves, if_neg (not_not.mpr (hlast.mpr (.inl ⟨d, hd⟩)))]
    obtain ⟨hframe, hholds⟩ := hp.type2 d hd
    refine ⟨hframe, ?_⟩
    simp only [fillBlock, if_neg hmoves]
    exact hholds.memcpy (.inr hend)
  · have hmoves := hlowered.not.mp hraised
    rw [hF, hof]
    simp only [fillBlock, if_neg hmoves]
    exact (hgap.mono (Nat.le_add_right _ _)).memcpy (.inr (le_refl _))
  · have hmoves : ¬ b.Moves (.type3 t) := by
      rw [hs.moves_iff hcheck hfits]
      rintro ⟨d, hd, -⟩
      exact (hno d).1 hd
    have hwhole := hwhole.resolve_left hne
    rw [hF, hof, hsize, if_neg hmoves, if_neg (not_not.mpr (hlast.mpr (.inr hwhole)))]
    exact hp.noType2 fun d => (hno d).1
  · have hmoves : ¬ b.Moves (.type3 t) := by
      rw [hs.moves_iff hcheck hfits]
      rintro ⟨d, hd, -⟩
      exact (hno d).1 hd
    rw [hF, hsize, if_neg hmoves, if_pos]
    rw [hlast]
    rintro (⟨d, hd⟩ | hl)
    · exact (hno d).1 hd
    · exact hcut hl

/-- A Type1 after the Type3 changes nothing at the end of the frame. -/
theorem Split.fill_type1 {a c : List Fragment} {t : List UInt8} {b : Bucket} {blk : Block}
    (hp : Split a t c b blk) (hs : Slots (a ++ .type3 t :: c) b) (hblock : b.block = some blk)
    {d : List UInt8} {src : UInt8} (hadm : (Fragment.type1 d).Admissible)
    (hfits : (Fragment.type1 d).Fits src b) :
    Split a t (c ++ [.type1 d]) (b.fill (.type1 d)) (b.fillBlock blk (.type1 d)) := by
  obtain ⟨-, -, -, hof, hF, -, -, -, -⟩ := b.fill_fields (.type1 d)
  have hsize : (b.fill (.type1 d)).frameSize = b.frameSize := (Bucket.block_fill _ hblock).2
  have hT : (Fragment.type1 d).size = b.mFragmentSize := hfits.type1Size (.inr (by simp))
  have hle : (Fragment.type1 d).slot ≤ b.mOfFragmentNo := hfits.ofFragmentNo ▸ hadm.slot_le
  have hpen := (hs.type3_slot (t := t) (by simp)).1
  have hfree3 : (Fragment.type1 d).slot ≠ (Fragment.type3 t).slot := fun heq =>
    hfits.slot (hs.mem_received.mpr ⟨.type3 t, by simp, heq.symm⟩)
  have hmem : ∀ e, (Fragment.type2 e ∈ c ++ [.type1 d] ↔ .type2 e ∈ c) := by simp
  have hlowered : Lowered a t (c ++ [.type1 d]) ↔ Lowered a t c := by simp [Lowered]
  have hbelow : ∀ e, (Fragment.type2 e ∈ a ∨ Fragment.type2 e ∈ c) →
      (Fragment.type1 d).slot < (Fragment.type3 t).slot := by
    intro e he
    have he : .type2 e ∈ a ++ .type3 t :: c := by
      rcases he with he | he <;> simp [he]
    have hfree2 : (Fragment.type1 d).slot ≠ b.mOfFragmentNo := fun heq =>
      hfits.slot (hs.mem_received.mpr ⟨_, he, (hs.of _ he).trans heq.symm⟩)
    omega
  refine ⟨fun hlow e he => ?_, fun hraised e he => ?_, fun hraised => ?_, fun hno hwhole => ?_,
    fun hno hne hcut => ?_⟩
  · rw [hmem] at he
    obtain ⟨hframe, hholds⟩ := hp.lowered (hlowered.mp hlow) e he
    rw [hF, hsize]
    have hend := mul_add_le_of_lt (hbelow e he) (le_of_eq hT)
    exact ⟨hframe, hholds.memcpy (.inr (by omega))⟩
  · rw [hmem] at he
    obtain ⟨hframe, hholds⟩ := hp.raised (hlowered.not.mp hraised) e he
    rw [hF, hof, hsize]
    have hlt := hbelow e he
    exact ⟨hframe, hholds.memcpy (.inr (mul_add_le_of_lt (by omega) (le_of_eq hT)))⟩
  · rw [hF, hof]
    refine (hp.gap (hlowered.not.mp hraised)).memcpy ?_
    rcases Nat.lt_or_ge (Fragment.type1 d).slot b.mOfFragmentNo with hlt | hge
    · have hend := mul_add_le_of_lt
        (show (Fragment.type1 d).slot < (Fragment.type3 t).slot by omega) (le_of_eq hT)
      exact .inr (by omega)
    · exact .inl (Nat.mul_le_mul_left _ hge)
  · rw [hF, hof, hsize]
    exact hp.whole (fun e => ⟨(hno e).1, fun he => (hno e).2 ((hmem e).mpr he)⟩) hwhole
  · rw [hF, hsize]
    exact hp.cut (fun e => ⟨(hno e).1, fun he => (hno e).2 ((hmem e).mpr he)⟩) hne hcut

/-- A Type2 after the Type3 is put behind it if it had a payload. -/
theorem Split.fill_type2 {a c : List Fragment} {t : List UInt8} {b : Bucket} {blk : Block}
    (hp : Split a t c b blk) (hs : Slots (a ++ .type3 t :: c) b) (hblock : b.block = some blk)
    (hsingle : b.mOfFragmentNo = 0 → 0 ∈ b.mReceivedFragments)
    {d : List UInt8} {src : UInt8} (hadm : (Fragment.type2 d).Admissible)
    (hfits : (Fragment.type2 d).Fits src b) :
    Split a t (c ++ [.type2 d]) (b.fill (.type2 d)) (b.fillBlock blk (.type2 d)) := by
  obtain ⟨-, -, -, hof, hF, -, -, -, -⟩ := b.fill_fields (.type2 d)
  have hlast : (Fragment.type2 d).slot = b.mOfFragmentNo := hfits.ofFragmentNo
  obtain ⟨-, hoffset, hactual⟩ := hs.type2_offset hsingle hfits
  have hsize : (b.fill (.type2 d)).frameSize =
      Receiver.type2Offset b (FrameType2.read d) + (Fragment.type2 d).size :=
    ((Bucket.block_fill _ hblock).2).trans hactual
  have hno2 : ∀ e, Fragment.type2 e ∉ a ∧ Fragment.type2 e ∉ c := by
    have hno : ∀ e, Fragment.type2 e ∉ a ++ .type3 t :: c := fun e he =>
      hfits.slot (hs.mem_received.mpr ⟨_, he, (hs.of _ he).trans hlast.symm⟩)
    intro e
    have := hno e
    simp only [List.mem_append, List.mem_cons, reduceCtorEq, false_or, not_or] at this
    exact this
  have hlowered : Lowered a t (c ++ [.type2 d]) ↔ 0 < (Fragment.type3 t).size := by
    constructor
    · rintro (⟨e, he, -⟩ | ⟨hpos, -⟩)
      · exact absurd he (hno2 e).1
      · exact hpos
    · exact fun hpos => .inr ⟨hpos, d, by simp⟩
  have hnew : ∀ e, (Fragment.type2 e ∈ a ∨ Fragment.type2 e ∈ c ++ [.type2 d]) → e = d := by
    rintro e (he | he)
    · exact absurd he (hno2 e).1
    · rcases List.mem_append.mp he with he | he
      · exact absurd he (hno2 e).2
      · exact Fragment.type2.inj (List.mem_singleton.mp he)
  have honly : ∀ t', Fragment.type3 t' ∈ a ++ .type3 t :: c → t' = t := fun t' ht' =>
    Fragment.type3.inj (hs.eq_of_slot ht' (by simp) (by
      have h1 := (hs.type3_slot ht').1
      have h2 := (hs.type3_slot (t := t) (by simp)).1
      omega))
  refine ⟨fun hlow e he => ?_, fun hraised e he => ?_, fun hraised => ?_, fun hno => ?_,
    fun hno => ?_⟩
  · have hpos := hlowered.mp hlow
    have hoff : Receiver.type2Offset b (FrameType2.read d) =
        b.mFragmentSize * (Fragment.type3 t).slot + (Fragment.type3 t).size := by
      rcases hoffset with ⟨t', ht', -, hoff⟩ | ⟨hzero, -⟩
      · rw [hoff, honly t' ht']
      · exact absurd (hzero t (by simp)) (by omega)
    rw [hnew e he, hF, hsize, hoff]
    refine ⟨rfl, ?_⟩
    rw [← hoff]
    exact holds_written hadm _ _
  · have hzero : (Fragment.type3 t).size = 0 := by
      have := hlowered.not.mp hraised
      omega
    have hoff : Receiver.type2Offset b (FrameType2.read d) =
        b.mFragmentSize * b.mOfFragmentNo := by
      rcases hoffset with ⟨t', ht', hpos, -⟩ | ⟨-, hoff⟩
      · rw [honly t' ht'] at hpos
        omega
      · exact hoff
    rw [hnew e he, hF, hof, hsize, hoff]
    refine ⟨rfl, ?_⟩
    rw [← hoff]
    exact holds_written hadm _ _
  · have hzero : (Fragment.type3 t).size = 0 := by
      have := hlowered.not.mp hraised
      omega
    have hoff : Receiver.type2Offset b (FrameType2.read d) =
        b.mFragmentSize * b.mOfFragmentNo := by
      rcases hoffset with ⟨t', ht', hpos, -⟩ | ⟨-, hoff⟩
      · rw [honly t' ht'] at hpos
        omega
      · exact hoff
    have hold : ¬ Lowered a t c := by
      rintro (⟨e, he, -⟩ | ⟨hpos, -⟩)
      · exact (hno2 e).1 he
      · omega
    rw [hF, hof]
    exact (hp.gap hold).memcpy (.inl (le_of_eq hoff.symm))
  · exact absurd (by simp) (hno d).2
  · exact absurd (by simp) (hno d).2

/-- What the block of a bucket made of `h` holds. -/
structure Layout (h : List Fragment) (b : Bucket) (blk : Block) : Prop where
  placed : Placed h b blk
  plain : (∀ d, .type3 d ∉ h) → Plain h b blk
  split : ∀ a t c, h = a ++ .type3 t :: c → Split a t c b blk

theorem Built.layout {h : List Fragment} {b : Bucket} (hb : b.Built h) :
    ∃ blk, b.block = some blk ∧ b.Layout h blk := by
  induction hb with
  | @opened b cfg now lOrder src s f admissible check alloc =>
      refine ⟨_, (b.block_openedWith cfg now lOrder (f.opening src s) f.packet alloc).1,
        placed_opened b cfg now lOrder src s admissible _, fun hno => ?_, fun a t c hsplit => ?_⟩
      · exact plain_opened b cfg now lOrder src s admissible alloc
          fun d hd => hno d (by simp [hd])
      · have hlen := congrArg List.length hsplit
        simp only [List.length_append, List.length_cons, List.length_nil] at hlen
        obtain rfl := List.length_eq_zero_iff.mp (show a.length = 0 by omega)
        obtain rfl := List.length_eq_zero_iff.mp (show c.length = 0 by omega)
        obtain rfl := List.singleton_inj.mp hsplit
        exact split_opened b cfg now lOrder src s t alloc
  | @filled h b src f built admissible check fits ih =>
      obtain ⟨blk, hblock, hlayout⟩ := ih
      have hs := built.slots
      obtain ⟨_, -, hbounded⟩ := built.bounded
      refine ⟨_, (Bucket.block_fill f hblock).1,
        hlayout.placed.fill hs hbounded.single admissible check fits, fun hno => ?_,
        fun a t c hsplit => ?_⟩
      · have hno3 : ∀ d, .type3 d ∉ h := fun d hd => hno d (List.mem_append_left _ hd)
        exact (hlayout.plain hno3).fill hs hblock hbounded.single hno3 admissible fits
          fun d hd => hno d (by simp [hd])
      · rcases List.eq_nil_or_concat' c with rfl | ⟨c', g, rfl⟩
        · obtain ⟨rfl, hf⟩ := List.append_inj' hsplit rfl
          obtain rfl := List.singleton_inj.mp hf
          have hno3 : ∀ d, .type3 d ∉ h := by
            intro d hd
            refine fits.slot (hs.mem_received.mpr ⟨_, hd, ?_⟩)
            have h1 := (hs.type3_slot hd).1
            have h2 := (type3_fits check fits).1
            omega
          exact (hlayout.plain hno3).fill_type3 hs built.ne_nil hblock check fits
        · rw [← List.cons_append, ← List.append_assoc] at hsplit
          obtain ⟨rfl, hf⟩ := List.append_inj' hsplit rfl
          obtain rfl := List.singleton_inj.mp hf
          have hold := hlayout.split a t c' rfl
          cases f with
          | type1 d => exact hold.fill_type1 hs hblock admissible fits
          | type2 d => exact hold.fill_type2 hs hblock hbounded.single admissible fits
          | type3 d =>
              refine absurd (hs.mem_received.mpr ⟨.type3 t, by simp, ?_⟩) fits.slot
              have h1 := (hs.type3_slot (t := t) (by simp)).1
              have h2 := (type3_fits check fits).1
              omega

end Bucket

end ElasticFrame
