import Mathlib

/-!
Maps ordered by their keys, read back after an update, and compared with a
list that says in another order what they hold.
-/

namespace ElasticFrame.Lib.TreeMap

variable {κ α : Type*} {cmp : κ → κ → Ordering} [Std.TransCmp cmp] [Std.LawfulEqCmp cmp]

theorem getElem?_insert [DecidableEq κ] (m : Std.ExtTreeMap κ α cmp) (k k' : κ) (v : α) :
    (m.insert k v)[k']? = if k = k' then some v else m[k']? := by
  simp only [Std.ExtTreeMap.getElem?_insert, Std.LawfulEqCmp.compare_eq_iff_eq]

theorem getElem?_erase [DecidableEq κ] (m : Std.ExtTreeMap κ α cmp) (k k' : κ) :
    (m.erase k)[k']? = if k = k' then none else m[k']? := by
  simp only [Std.ExtTreeMap.getElem?_erase, Std.LawfulEqCmp.compare_eq_iff_eq]

omit [Std.LawfulEqCmp cmp] in
theorem getElem?_of_none [DecidableEq κ] {m : Std.ExtTreeMap κ α cmp} {k : κ} (h : m[k]? = none)
    (k' : κ) : m[k']? = if k = k' then none else m[k']? := by
  split_ifs with heq
  · rw [← heq, h]
  · rfl

/-- A list without repetitions that has the entries of the map has them in
another order. -/
theorem perm_toList {m : Std.ExtTreeMap κ α cmp} {l : List (κ × α)} (hnodup : l.Nodup)
    (h : ∀ k v, (k, v) ∈ l ↔ m[k]? = some v) : l.Perm m.toList := by
  have hm : m.toList.Nodup := by
    apply Std.ExtTreeMap.distinct_keys_toList.imp
    rintro a b hne rfl
    exact hne (Std.LawfulEqCmp.compare_eq_iff_eq.mpr rfl)
  apply (List.perm_ext_iff_of_nodup hnodup hm).mpr
  rintro ⟨k, v⟩
  rw [h, Std.ExtTreeMap.mem_toList_iff_getElem?_eq_some]

end ElasticFrame.Lib.TreeMap
