import Mathlib

/-!
A list read as the order in which its items were first asked for.
-/

namespace ElasticFrame.Lib.FirstOccurrence

variable {α : Type*} [DecidableEq α]

/-- Items that are left out do not change the order of the others. -/
theorem eraseDups_filter (p : α → Bool) (l : List α) :
    (l.filter p).eraseDups = l.eraseDups.filter p := by
  induction hn : l.length using Nat.strong_induction_on generalizing l with
  | _ n ih =>
      cases l with
      | nil => rfl
      | cons a l =>
          have hrest := ih (l.filter fun b => !b == a).length
            (hn ▸ Nat.lt_succ_of_le (List.length_filter_le _ _)) _ rfl
          rw [List.eraseDups_cons, List.filter_cons, List.filter_cons, ← hrest]
          have hcomm : (l.filter fun b => !b == a).filter p =
              (l.filter p).filter fun b => !b == a := by
            rw [List.filter_filter, List.filter_filter]
            exact List.filter_congr fun b _ => Bool.and_comm _ _
          split_ifs with hp
          · rw [List.eraseDups_cons, hcomm]
          · have hskip : (l.filter p).filter (fun b => !b == a) = l.filter p := by
              rw [List.filter_eq_self]
              intro b hb
              rw [Bool.not_eq_true', beq_eq_false_iff_ne]
              rintro rfl
              exact hp (List.of_mem_filter hb)
            rw [hcomm, hskip]

theorem eraseDups_concat (l : List α) (a : α) :
    (l ++ [a]).eraseDups = if a ∈ l then l.eraseDups else l.eraseDups ++ [a] := by
  rw [List.eraseDups_append, List.removeAll]
  by_cases h : a ∈ l
  · rw [if_pos h]
    simp [h]
  · rw [if_neg h]
    simp [h, List.eraseDups_cons]

end ElasticFrame.Lib.FirstOccurrence
