import ElasticFrame.Lib.Machine

/-!
Infinite schedules of a machine, and the rule for what must happen along a fair
one. A measure never grows; in every state some thread is helpful, which it stays
until the measure goes down; and a step of the helpful thread makes it go down.
If each thread takes steps for ever, the goal is reached, whatever is scheduled
in between.
-/

namespace ElasticFrame.Lib.Machine

variable {σ ε ο ι : Type*}

/-- The state before the `n`th step of a schedule. -/
def after (M : Machine σ ε ο) (s : σ) (schedule : ℕ → ε) : ℕ → σ
  | 0 => s
  | n + 1 => (M.step (M.after s schedule n) (schedule n)).1

theorem after_succ' (M : Machine σ ε ο) (s : σ) (schedule : ℕ → ε) (n : ℕ) :
    M.after s schedule (n + 1) =
      M.after (M.step s (schedule 0)).1 (fun k => schedule (k + 1)) n := by
  induction n with
  | zero => rfl
  | succ n ih => rw [after, ih, after]

def Fair (belongs : ι → ε → Prop) (schedule : ℕ → ε) : Prop :=
  ∀ i n, ∃ m, n ≤ m ∧ belongs i (schedule m)

theorem Fair.shift {belongs : ι → ε → Prop} {schedule : ℕ → ε} (h : Fair belongs schedule)
    (k : ℕ) : Fair belongs fun n => schedule (k + n) := by
  intro i n
  obtain ⟨m, hle, hm⟩ := h i (k + n)
  refine ⟨m - k, by omega, ?_⟩
  show belongs i (schedule (k + (m - k)))
  rw [Nat.add_sub_cancel' (by omega)]
  exact hm

/-- The fairness rule. -/
theorem eventually_of_fair (M : Machine σ ε ο) {belongs : ι → ε → Prop} {I G : σ → Prop}
    (μ : σ → ℕ) (helpful : σ → ι) (hinv : ∀ s e, I s → I (M.step s e).1)
    (hstep : ∀ s e, I s → ¬ G s → μ (M.step s e).1 < μ s ∨
      μ (M.step s e).1 = μ s ∧ helpful (M.step s e).1 = helpful s)
    (hhelp : ∀ s e, I s → ¬ G s → belongs (helpful s) e → μ (M.step s e).1 < μ s)
    {s : σ} {schedule : ℕ → ε} (hs : I s) (hfair : Fair belongs schedule) :
    ∃ n, G (M.after s schedule n) := by
  induction hμ : μ s using Nat.strong_induction_on generalizing s schedule with
  | _ k ih =>
      -- a step that lowers the measure is followed by the rest of the schedule
      have hlower : ∀ {s : σ} {schedule : ℕ → ε}, I s → Fair belongs schedule →
          μ (M.step s (schedule 0)).1 < k → ∃ n, G (M.after s schedule n) := by
        intro s schedule hs hfair hlt
        have hrest : Fair belongs fun n => schedule (n + 1) := by
          simpa only [Nat.add_comm] using hfair.shift 1
        obtain ⟨n, hn⟩ := ih _ hlt (hinv s (schedule 0) hs) hrest rfl
        exact ⟨n + 1, by rw [after_succ']; exact hn⟩
      obtain ⟨m, -, hm⟩ := hfair (helpful s) 0
      -- until the helpful thread is next, nothing else can have changed
      induction m generalizing s schedule with
      | zero =>
          by_cases hG : G s
          · exact ⟨0, hG⟩
          · exact hlower hs hfair (hμ ▸ hhelp s (schedule 0) hs hG hm)
      | succ m ihm =>
          by_cases hG : G s
          · exact ⟨0, hG⟩
          rcases hstep s (schedule 0) hs hG with hlt | ⟨hsame, hsame'⟩
          · exact hlower hs hfair (hμ ▸ hlt)
          · have hrest : Fair belongs fun n => schedule (n + 1) := by
              simpa only [Nat.add_comm] using hfair.shift 1
            obtain ⟨n, hn⟩ := ihm (hinv s (schedule 0) hs) hrest (hsame.trans hμ)
              (by rw [hsame']; exact hm)
            exact ⟨n + 1, by rw [after_succ']; exact hn⟩

end ElasticFrame.Lib.Machine
