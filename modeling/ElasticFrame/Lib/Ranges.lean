import Mathlib

/-!
Sets of numbers as lists of ranges: each range as long as the set lets it be,
up to a limit. There is one such list for every finite set, and a prefix of it
is the set up to a point.
-/

namespace ElasticFrame.Lib.Ranges

/-- The numbers `start, .., start + more`. -/
structure Range where
  start : ℕ
  more : ℕ
  deriving DecidableEq

namespace Range

def last (r : Range) : ℕ := r.start + r.more

def Mem (r : Range) (k : ℕ) : Prop := r.start ≤ k ∧ k ≤ r.last

instance (r : Range) (k : ℕ) : Decidable (r.Mem k) := inferInstanceAs (Decidable (_ ∧ _))

def numbers (r : Range) : List ℕ := List.range' r.start (r.more + 1)

theorem mem_numbers {r : Range} {k : ℕ} : k ∈ r.numbers ↔ r.Mem k := by
  rw [numbers, List.mem_range'_1, Mem, last]
  omega

theorem mem_start (r : Range) : r.Mem r.start := ⟨le_rfl, Nat.le_add_right _ _⟩

theorem mem_last (r : Range) : r.Mem r.last := ⟨Nat.le_add_right _ _, le_rfl⟩

end Range

/-- The ranges make up the set, in ascending order. Each has at most
`limit + 1` elements, and stops short of that only where a run of the set ends. -/
structure Coalesced (limit : ℕ) (M : ℕ → Prop) (rs : List Range) : Prop where
  ascending : rs.Pairwise fun r r' => r.last < r'.start
  covers : ∀ k, M k ↔ ∃ r ∈ rs, r.Mem k
  more_le : ∀ r ∈ rs, r.more ≤ limit
  maximal : ∀ r ∈ rs, r.more = limit ∨ ¬ M (r.last + 1)

variable {limit : ℕ} {M : ℕ → Prop} {rs : List Range}

theorem Coalesced.congr {M' : ℕ → Prop} (h : Coalesced limit M rs) (heq : ∀ k, M k ↔ M' k) :
    Coalesced limit M' rs := by
  have hM : M = M' := funext fun k => propext (heq k)
  exact hM ▸ h

theorem coalesced_nil (h : ∀ k, ¬ M k) : Coalesced limit M [] where
  ascending := .nil
  covers k := iff_of_false (h k) fun ⟨_, hr, _⟩ => absurd hr List.not_mem_nil
  more_le _ hr := absurd hr List.not_mem_nil
  maximal _ hr := absurd hr List.not_mem_nil

theorem Coalesced.cons {r : Range} (h : Coalesced limit M rs) (hmore : r.more ≤ limit)
    (hafter : ∀ k, M k → r.last < k) (hcut : r.more = limit ∨ ¬ M (r.last + 1)) :
    Coalesced limit (fun k => r.Mem k ∨ M k) (r :: rs) := by
  have hstart : ∀ r' ∈ rs, r.last < r'.start :=
    fun r' hr' => hafter _ ((h.covers _).mpr ⟨r', hr', r'.mem_start⟩)
  refine ⟨List.pairwise_cons.mpr ⟨hstart, h.ascending⟩, fun k => ?_, ?_, ?_⟩
  · rw [h.covers]
    simp only [List.mem_cons, exists_eq_or_imp]
  · exact List.forall_mem_cons.mpr ⟨hmore, h.more_le⟩
  · rw [List.forall_mem_cons]
    constructor
    · refine hcut.imp_right fun hnot => not_or.mpr ⟨fun hmem => ?_, hnot⟩
      exact absurd hmem.2 (Nat.not_succ_le_self _)
    · intro r' hr'
      refine (h.maximal r' hr').imp_right fun hnot => not_or.mpr ⟨fun hmem => ?_, hnot⟩
      have hlt := hstart r' hr'
      have hle := r'.mem_start.2
      have hend := hmem.2
      omega

theorem Coalesced.tail {r : Range} (h : Coalesced limit M (r :: rs)) :
    Coalesced limit (fun k => M k ∧ r.last < k) rs := by
  obtain ⟨hstart, hascending⟩ := List.pairwise_cons.mp h.ascending
  refine ⟨hascending, fun k => ?_, fun r' hr' => h.more_le r' (List.mem_cons_of_mem _ hr'),
    fun r' hr' => ?_⟩
  · rw [h.covers]
    simp only [List.mem_cons, exists_eq_or_imp]
    constructor
    · rintro ⟨hmem | hmem, hlt⟩
      · exact absurd hmem.2 (not_le.mpr hlt)
      · exact hmem
    · rintro ⟨r', hr', hmem⟩
      exact ⟨.inr ⟨r', hr', hmem⟩, (hstart r' hr').trans_le hmem.1⟩
  · exact (h.maximal r' (List.mem_cons_of_mem _ hr')).imp_right fun hnot hM => hnot hM.1

theorem Coalesced.start_le {r : Range} (h : Coalesced limit M (r :: rs)) {k : ℕ} (hk : M k) :
    r.start ≤ k := by
  obtain ⟨hstart, -⟩ := List.pairwise_cons.mp h.ascending
  obtain ⟨r', hr', hmem⟩ := (h.covers k).mp hk
  rcases List.mem_cons.mp hr' with rfl | hr'
  · exact hmem.1
  · exact (Nat.le_of_lt ((Nat.le_add_right _ _).trans_lt (hstart r' hr'))).trans hmem.1

theorem Coalesced.unique {rs' : List Range} (h : Coalesced limit M rs)
    (h' : Coalesced limit M rs') : rs = rs' := by
  induction rs generalizing M rs' with
  | nil =>
      cases rs' with
      | nil => rfl
      | cons r' rs' =>
          obtain ⟨r, hr, -⟩ := (h.covers _).mp ((h'.covers _).mpr ⟨r', by simp, r'.mem_start⟩)
          exact absurd hr List.not_mem_nil
  | cons r rs ih =>
      have hM : M r.start := (h.covers _).mpr ⟨r, by simp, r.mem_start⟩
      cases rs' with
      | nil =>
          obtain ⟨r', hr', -⟩ := (h'.covers _).mp hM
          exact absurd hr' List.not_mem_nil
      | cons r' rs' =>
          have hM' : M r'.start := (h'.covers _).mpr ⟨r', by simp, r'.mem_start⟩
          have hstart : r.start = r'.start := le_antisymm (h.start_le hM') (h'.start_le hM)
          have hle : ∀ {r r' : Range} {rs rs' : List Range}, Coalesced limit M (r :: rs) →
              Coalesced limit M (r' :: rs') → r.start = r'.start → r'.more ≤ r.more := by
            intro r r' rs rs' h h' hstart
            by_contra hlt
            -- the longer one goes on where the shorter one ends a run
            have hmem : M (r.last + 1) := by
              refine (h'.covers _).mpr ⟨r', by simp, ?_⟩
              simp only [Range.Mem, Range.last]
              omega
            have hfull := (h.maximal r (by simp)).resolve_right (not_not.mpr hmem)
            have hmore := h'.more_le r' (by simp)
            omega
          have hmore : r.more = r'.more := le_antisymm (hle h' h hstart.symm) (hle h h' hstart)
          have heq : r = r' := by
            cases r
            cases r'
            simp only [Range.mk.injEq]
            exact ⟨hstart, hmore⟩
          subst heq
          rw [ih h.tail h'.tail]

theorem numbers_ascending (h : rs.Pairwise fun r r' => r.last < r'.start) :
    (rs.flatMap Range.numbers).Pairwise (· < ·) := by
  rw [List.pairwise_flatMap]
  refine ⟨fun r _ => List.pairwise_lt_range', h.imp fun {r r'} hlt k hk k' hk' => ?_⟩
  have hle := (Range.mem_numbers.mp hk).2
  have hge := (Range.mem_numbers.mp hk').1
  omega

/-- The first `n` ranges are the set up to the end of the last of them. -/
theorem Coalesced.take {n : ℕ} (h : Coalesced limit M rs) (hn : n < rs.length) (k : ℕ) :
    (∃ r ∈ rs.take (n + 1), r.Mem k) ↔ M k ∧ k ≤ rs[n].last := by
  have hsplit := h.ascending
  rw [← List.take_append_drop (n + 1) rs, List.pairwise_append] at hsplit
  have hlast : rs[n] ∈ rs.take (n + 1) := by
    rw [List.take_succ_eq_append_getElem hn]
    exact List.mem_append_right _ (List.mem_singleton.mpr rfl)
  constructor
  · rintro ⟨r, hr, hmem⟩
    refine ⟨(h.covers k).mpr ⟨r, List.mem_of_mem_take hr, hmem⟩, ?_⟩
    rw [List.take_succ_eq_append_getElem hn, List.mem_append, List.mem_singleton] at hr
    rcases hr with hr | rfl
    · have hascending := h.ascending
      rw [← List.take_append_drop n rs, List.pairwise_append] at hascending
      have hlt := hascending.2.2 r hr rs[n]
        (by rw [List.drop_eq_getElem_cons hn]; exact List.mem_cons_self)
      exact hmem.2.trans (hlt.le.trans (Nat.le_add_right _ _))
    · exact hmem.2
  · rintro ⟨hM, hle⟩
    obtain ⟨r, hr, hmem⟩ := (h.covers k).mp hM
    rw [← List.take_append_drop (n + 1) rs, List.mem_append] at hr
    rcases hr with hr | hr
    · exact ⟨r, hr, hmem⟩
    · have hlt := hsplit.2.2 _ hlast r hr
      exact absurd (hmem.1.trans hle) (not_le.mpr hlt)

end ElasticFrame.Lib.Ranges
