import Mathlib

/-!
Lists: what a `filterMap` leaves of a list that is put together in some way, and
lists of lists of one length.
-/

namespace ElasticFrame.Lib

variable {α β : Type*}

theorem filterMap_concat (f : α → Option β) (os : List α) (o : α) :
    (os ++ [o]).filterMap f = os.filterMap f ++ (f o).toList := by
  rw [List.filterMap_append]
  cases h : f o <;> simp [h]

theorem filterMap_mapIdx {g : β → Option α} {f : ℕ → α → β} (h : ∀ i a, g (f i a) = some a)
    (l : List α) : (l.mapIdx f).filterMap g = l := by
  induction l generalizing f with
  | nil => rfl
  | cons a l ih =>
      rw [List.mapIdx_cons, List.filterMap_cons_some (h 0 a), ih fun i a => h (i + 1) a]

theorem filterMap_ite_eq [DecidableEq α] {l : List α} (h : l.Nodup) (j : α) (x : β) :
    l.filterMap (fun i => if i = j then some x else none) = if j ∈ l then [x] else [] := by
  induction l with
  | nil => rfl
  | cons i l ih =>
      obtain ⟨hi, hl⟩ := List.nodup_cons.mp h
      by_cases hij : i = j
      · subst hij
        simp [ih hl, hi]
      · simp [ih hl, hij, Ne.symm hij]

/-- Of a list without repetitions, a filter for one element leaves that
element. -/
theorem filter_eq_of_nodup [DecidableEq α] {l : List α} (hl : l.Nodup)
    {p : α → Bool} {a : α} (h : ∀ x ∈ l, p x = true → x = a) :
    l.filter p = if a ∈ l ∧ p a = true then [a] else [] := by
  split_ifs with ha
  · apply List.perm_singleton.mp
    apply (List.perm_ext_iff_of_nodup (hl.filter p) (List.nodup_singleton a)).mpr
    intro x
    rw [List.mem_filter, List.mem_singleton]
    exact ⟨fun hx => h x hx.1 hx.2, fun hx => hx ▸ ha⟩
  · refine List.filter_eq_nil_iff.mpr fun x hx hp => ha ?_
    obtain rfl := h x hx hp
    exact ⟨hx, hp⟩

theorem isChain_concat {a m : α} {ms : List α} (h : (a :: ms).IsChain (· ≠ ·))
    (hlast : ∀ x ∈ (a :: ms).getLast?, x ≠ m) : (a :: (ms ++ [m])).IsChain (· ≠ ·) := by
  rw [← List.cons_append]
  refine h.append (List.isChain_singleton _) fun x hx y hy => ?_
  cases hy
  exact hlast x hx

theorem forall₂_getElem? {R : α → β → Prop} {xs : List α} {ys : List β} (h : List.Forall₂ R xs ys)
    (k : ℕ) :
    (xs[k]? = none ∧ ys[k]? = none) ∨ ∃ x y, xs[k]? = some x ∧ ys[k]? = some y ∧ R x y := by
  induction h generalizing k with
  | nil => exact .inl ⟨rfl, rfl⟩
  | @cons x y xs ys hR _ ih =>
      cases k with
      | zero => exact .inr ⟨x, y, rfl, rfl, hR⟩
      | succ k => exact ih k

theorem length_flatten_of_forall {L : List (List α)} {n : ℕ} (h : ∀ l ∈ L, l.length = n) :
    L.flatten.length = L.length * n := by
  rw [List.length_flatten, List.map_congr_left h, List.map_const', List.sum_replicate,
    smul_eq_mul]

/-- Pieces of one size are found again in what they are put together to. -/
theorem pieces_flatten {members : List (List α)} {size : ℕ}
    (hlength : ∀ m ∈ members, m.length = size) :
    ((List.range members.length).map fun lI => (members.flatten.drop (lI * size)).take size) =
      members := by
  induction members with
  | nil => rfl
  | cons m members ih =>
      have hm := hlength m List.mem_cons_self
      refine Eq.trans ?_ (congrArg (m :: ·) (ih fun m hm => hlength m (List.mem_cons_of_mem _ hm)))
      rw [List.length_cons, List.range_succ_eq_map, List.map_cons, List.map_map, Nat.zero_mul,
        List.drop_zero, List.flatten_cons, ← hm, List.take_left]
      congr 1
      apply List.map_congr_left
      intro lI _
      rw [Function.comp_apply, Nat.succ_mul, Nat.add_comm, List.drop_append,
        List.drop_eq_nil_of_le (Nat.le_add_right _ _), List.nil_append, Nat.add_sub_cancel_left]

end ElasticFrame.Lib
