import Mathlib

/-!
A queue of items with sizes, oldest first, that is kept below a cap. Before
something is added to it, items leave at the front: those that have expired,
and as many more as it takes to make room.
-/

namespace ElasticFrame.Lib.Expiry

variable {α : Type*} (size : α → ℕ) (expired : α → Prop) [DecidablePred expired]

def total (l : List α) : ℕ := (l.map size).sum

@[simp] theorem total_nil : total size [] = 0 := rfl

@[simp] theorem total_cons (a : α) (l : List α) : total size (a :: l) = size a + total size l := by
  rw [total, List.map_cons, List.sum_cons, total]

@[simp] theorem total_append (l l' : List α) :
    total size (l ++ l') = total size l + total size l' := by
  rw [total, List.map_append, List.sum_append, total, total]

theorem total_filter_not (size : α → ℕ) {p : α → Bool} {l : List α} {a : α} (ha : a ∈ l) (hp : p a = true)
    (h : l.Pairwise fun a b => p a = true → p b = false) :
    total size (l.filter fun a => !p a) + size a = total size l := by
  induction l with
  | nil => exact absurd ha List.not_mem_nil
  | cons b l ih =>
      obtain ⟨hb, hl⟩ := List.pairwise_cons.mp h
      rw [List.filter_cons, total_cons]
      rcases List.mem_cons.mp ha with rfl | ha
      · have hrest : (l.filter fun a => !p a) = l := by
          rw [List.filter_eq_self]
          intro b hmem
          rw [hb b hmem hp, Bool.not_false]
        rw [hp, Bool.not_true, if_neg Bool.false_ne_true, hrest]
        exact Nat.add_comm _ _
      · have hpb : p b = false := by
          by_contra htrue
          rw [hb a ha (by simpa using htrue)] at hp
          cases hp
        rw [hpb, Bool.not_false, if_pos rfl, total_cons, Nat.add_assoc, ih ha hl]

/-- What is left when the front has expired and `required` has room below
`cap`. -/
def expire (cap required : ℕ) : List α → List α
  | [] => []
  | a :: l =>
      if ¬ expired a ∧ total size (a :: l) + required ≤ cap then a :: l
      else expire cap required l

variable (cap required : ℕ)

theorem expire_suffix (l : List α) : expire size expired cap required l <:+ l := by
  induction l with
  | nil => exact List.suffix_refl []
  | cons a l ih =>
      rw [expire]
      split_ifs
      · exact List.suffix_refl _
      · exact ih.trans (List.suffix_cons a l)

theorem total_expire {cap required : ℕ} (h : required ≤ cap) (l : List α) :
    total size (expire size expired cap required l) + required ≤ cap := by
  induction l with
  | nil => rwa [expire, total_nil, Nat.zero_add]
  | cons a l ih =>
      rw [expire]
      split_ifs with hkeep
      · exact hkeep.2
      · exact ih

variable {size expired cap required}

/-- Nothing that has expired is left when the items expire in order. -/
theorem not_expired {l : List α} (h : l.Pairwise fun a b => expired b → expired a) :
    ∀ a ∈ expire size expired cap required l, ¬ expired a := by
  induction l with
  | nil => simp [expire]
  | cons a l ih =>
      rw [expire]
      split_ifs with hkeep
      · intro b hb
        rcases List.mem_cons.mp hb with rfl | hb
        · exact hkeep.1
        · exact fun hexp => hkeep.1 ((List.pairwise_cons.mp h).1 b hb hexp)
      · exact ih (List.pairwise_cons.mp h).2

end ElasticFrame.Lib.Expiry
