import Mathlib

/-!
A list taken apart by a key.
-/

namespace ElasticFrame.Lib.Groups

variable {α κ : Type*} [DecidableEq κ]

theorem flatMap_ite_eq {keys : List κ} (hkeys : keys.Nodup) {k : κ} (hk : k ∈ keys) (a : α) :
    (keys.flatMap fun k' => if k = k' then [a] else []) = [a] := by
  induction keys with
  | nil => exact absurd hk List.not_mem_nil
  | cons k' keys ih =>
      obtain ⟨hnew, hkeys⟩ := List.nodup_cons.mp hkeys
      rw [List.flatMap_cons]
      by_cases heq : k = k'
      · subst heq
        have hnone : (keys.flatMap fun k' => if k = k' then [a] else []) = [] := by
          apply List.flatMap_eq_nil_iff.mpr
          intro k' hk'
          rw [if_neg]
          rintro rfl
          exact hnew hk'
        rw [if_pos rfl, hnone]
        rfl
      · rw [if_neg heq, ih hkeys ((List.mem_cons.mp hk).resolve_left heq)]
        rfl

theorem perm_flatMap_filter (key : α → κ) {keys : List κ} (hkeys : keys.Nodup) {l : List α}
    (h : ∀ a ∈ l, key a ∈ keys) :
    l.Perm (keys.flatMap fun k => l.filter fun a => key a = k) := by
  induction l with
  | nil =>
      have hnone : (keys.flatMap fun k => ([] : List α).filter fun a => key a = k) = [] :=
        List.flatMap_eq_nil_iff.mpr fun _ _ => rfl
      rw [hnone]
  | cons a l ih =>
      have hsplit : (keys.flatMap fun k => (a :: l).filter fun a => key a = k) =
          keys.flatMap fun k => (if key a = k then [a] else []) ++
            l.filter fun a => key a = k := by
        congr 1
        funext k
        rw [List.filter_cons]
        by_cases heq : key a = k <;> simp [heq]
      rw [hsplit]
      refine List.Perm.trans ?_ (List.flatMap_append_perm keys _ _)
      rw [flatMap_ite_eq hkeys (h a List.mem_cons_self)]
      exact (ih fun b hb => h b (List.mem_cons_of_mem _ hb)).cons a

theorem forall₂_flatMap_range {β : Type*} {R : α → β → Prop} {l : List β} {group : ℕ → List α}
    (h : ∀ k b, l[k]? = some b → ∃ a, group k = [a] ∧ R a b) :
    List.Forall₂ R ((List.range l.length).flatMap group) l := by
  induction l using List.reverseRecOn with
  | nil => exact .nil
  | append_singleton l b ih =>
      have hlast : (l ++ [b])[l.length]? = some b := by
        rw [List.getElem?_append_right le_rfl, Nat.sub_self]
        rfl
      obtain ⟨a, hgroup, hR⟩ := h l.length b hlast
      have hinit : ∀ k b', l[k]? = some b' → ∃ a, group k = [a] ∧ R a b' := by
        intro k b' hget
        apply h k b'
        rw [List.getElem?_append_left (List.getElem?_eq_some_iff.mp hget).1]
        exact hget
      rw [List.length_append, List.length_singleton, List.range_succ, List.flatMap_append,
        List.flatMap_singleton, hgroup]
      exact List.rel_append (ih hinit) (.cons hR .nil)

end ElasticFrame.Lib.Groups
