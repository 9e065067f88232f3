import Mathlib

/-!
Deterministic state machines with outputs, and the three rules a safety
proof about one is made of: an invariant that every step keeps, a property
that every output of a step has, and a simulation between two machines fed
with the same events or with a part of them.

A run is a list of events, so every statement about "every run" is an
induction on that list; the rules below are where that induction is done.
-/

namespace ElasticFrame.Lib

/-- A machine over states `σ`, events `ε` and outputs `ο`. -/
structure Machine (σ ε ο : Type*) where
  step : σ → ε → σ × List ο

namespace Machine

variable {σ τ ε ο ω : Type*}

/-- The state a run ends in, and everything it put out, in order. -/
def run (M : Machine σ ε ο) : σ → List ε → σ × List ο
  | s, [] => (s, [])
  | s, e :: es =>
      ((M.run (M.step s e).1 es).1, (M.step s e).2 ++ (M.run (M.step s e).1 es).2)

@[simp] theorem run_nil (M : Machine σ ε ο) (s : σ) : M.run s [] = (s, []) := rfl

theorem run_cons (M : Machine σ ε ο) (s : σ) (e : ε) (es : List ε) :
    M.run s (e :: es) =
      ((M.run (M.step s e).1 es).1, (M.step s e).2 ++ (M.run (M.step s e).1 es).2) := rfl

theorem run_append (M : Machine σ ε ο) (s : σ) (es fs : List ε) :
    M.run s (es ++ fs) =
      ((M.run (M.run s es).1 fs).1, (M.run s es).2 ++ (M.run (M.run s es).1 fs).2) := by
  induction es generalizing s with
  | nil => simp
  | cons e es ih => simp [run_cons, ih, List.append_assoc]

theorem run_concat (M : Machine σ ε ο) (s : σ) (es : List ε) (e : ε) :
    (M.run s (es ++ [e])).1 = (M.step (M.run s es).1 e).1 := by
  rw [run_append]
  rfl

/-- Every step of the run from `s` along `es` is taken in a state where
`C` holds of that state and the event. -/
def Along (M : Machine σ ε ο) (C : σ → ε → Prop) : σ → List ε → Prop
  | _, [] => True
  | s, e :: es => C s e ∧ M.Along C (M.step s e).1 es

instance decidableAlong (M : Machine σ ε ο) {C : σ → ε → Prop} [∀ s e, Decidable (C s e)] :
    (s : σ) → (es : List ε) → Decidable (M.Along C s es)
  | _, [] => isTrue trivial
  | s, e :: es =>
      have := decidableAlong M (C := C) (M.step s e).1 es
      inferInstanceAs (Decidable (C s e ∧ M.Along C (M.step s e).1 es))

@[simp] theorem along_nil (M : Machine σ ε ο) (C : σ → ε → Prop) (s : σ) :
    M.Along C s [] := trivial

theorem along_cons (M : Machine σ ε ο) (C : σ → ε → Prop) (s : σ) (e : ε) (es : List ε) :
    M.Along C s (e :: es) ↔ C s e ∧ M.Along C (M.step s e).1 es := Iff.rfl

theorem along_append (M : Machine σ ε ο) (C : σ → ε → Prop) (s : σ) (es fs : List ε) :
    M.Along C s (es ++ fs) ↔ M.Along C s es ∧ M.Along C (M.run s es).1 fs := by
  induction es generalizing s with
  | nil => simp
  | cons e es ih => simp [along_cons, run_cons, ih, and_assoc]

theorem along_of_forall (M : Machine σ ε ο) {C : σ → ε → Prop} {es : List ε}
    (h : ∀ s, ∀ e ∈ es, C s e) (s : σ) : M.Along C s es := by
  induction es generalizing s with
  | nil => trivial
  | cons e es ih =>
      exact ⟨h s e (by simp), ih (fun s e he => h s e (by simp [he])) _⟩

theorem along_iff_forall (M : Machine σ ε ο) {C : σ → ε → Prop} {D : ε → Prop}
    (h : ∀ s e, C s e ↔ D e) (s : σ) (es : List ε) : M.Along C s es ↔ ∀ e ∈ es, D e := by
  induction es generalizing s with
  | nil => exact iff_of_true trivial fun e he => absurd he List.not_mem_nil
  | cons e es ih => rw [along_cons, ih, h, List.forall_mem_cons]

/-- A run that does not keep to a condition has a first step that does not. -/
theorem exists_of_not_along (M : Machine σ ε ο) {C : σ → ε → Prop} {s : σ} {es : List ε}
    (h : ¬ M.Along C s es) : ∃ before e, before ++ [e] <+: es ∧ M.Along C s before ∧
      ¬ C (M.run s before).1 e := by
  induction es generalizing s with
  | nil => exact absurd trivial h
  | cons e es ih =>
      by_cases hC : C s e
      · obtain ⟨before, e', hprefix, halong, hnot⟩ := ih fun hrest => h ⟨hC, hrest⟩
        exact ⟨e :: before, e', List.prefix_cons_iff.mpr (.inr ⟨_, rfl, hprefix⟩), ⟨hC, halong⟩,
          hnot⟩
      · exact ⟨[], e, List.prefix_cons_iff.mpr (.inr ⟨_, rfl, List.nil_prefix⟩), trivial, hC⟩

/-- The invariant rule: what each step keeps, the run keeps. -/
theorem run_invariant (M : Machine σ ε ο) {I : σ → Prop} {C : σ → ε → Prop}
    (hstep : ∀ s e, I s → C s e → I (M.step s e).1) {s : σ} {es : List ε}
    (hs : I s) (hC : M.Along C s es) : I (M.run s es).1 := by
  induction es generalizing s with
  | nil => exact hs
  | cons e es ih => exact ih (hstep s e hs hC.1) hC.2

/-- The invariant rule for the steps of a run: what follows from the invariant
and the condition holds at each of them. -/
theorem along_of_invariant (M : Machine σ ε ο) {I : σ → Prop} {C D : σ → ε → Prop}
    (hstep : ∀ s e, I s → C s e → I (M.step s e).1) (hD : ∀ s e, I s → C s e → D s e) {s : σ}
    {es : List ε} (hs : I s) (hC : M.Along C s es) : M.Along D s es := by
  induction es generalizing s with
  | nil => trivial
  | cons e es ih => exact ⟨hD s e hs hC.1, ih (hstep s e hs hC.1) hC.2⟩

/-- The output rule: an output of a run is an output of one of its steps,
taken in a state where the invariant holds. -/
theorem run_output (M : Machine σ ε ο) {I : σ → Prop} {C : σ → ε → Prop} {P : ο → Prop}
    (hstep : ∀ s e, I s → C s e → I (M.step s e).1)
    (hout : ∀ s e, I s → C s e → ∀ o ∈ (M.step s e).2, P o) {s : σ} {es : List ε}
    (hs : I s) (hC : M.Along C s es) : ∀ o ∈ (M.run s es).2, P o := by
  induction es generalizing s with
  | nil => simp
  | cons e es ih =>
      intro o ho
      rw [run_cons, List.mem_append] at ho
      rcases ho with ho | ho
      · exact hout s e hs hC.1 o ho
      · exact ih (hstep s e hs hC.1) hC.2 o ho

/-- The history rule: an invariant of the state and all that has been put out. -/
theorem run_history (M : Machine σ ε ο) {I : σ → List ο → Prop} {C : σ → ε → Prop}
    (hstep : ∀ s os e, I s os → C s e → I (M.step s e).1 (os ++ (M.step s e).2)) {s : σ}
    {os : List ο} {es : List ε} (hs : I s os) (hC : M.Along C s es) :
    I (M.run s es).1 (os ++ (M.run s es).2) := by
  induction es generalizing s os with
  | nil =>
      rw [run_nil, List.append_nil]
      exact hs
  | cons e es ih =>
      rw [run_cons, ← List.append_assoc]
      exact ih (hstep s os e hs hC.1) hC.2

/-- The output rule with a condition: if the outputs of a step have a property
just when the step meets the condition, the outputs of a run have it just
when every step does. -/
theorem run_output_iff (M : Machine σ ε ο) {I : σ → Prop} {C : σ → ε → Prop} {P : ο → Prop}
    (hstep : ∀ s e, I s → I (M.step s e).1)
    (hout : ∀ s e, I s → ((∀ o ∈ (M.step s e).2, P o) ↔ C s e)) {s : σ} {es : List ε}
    (hs : I s) : (∀ o ∈ (M.run s es).2, P o) ↔ M.Along C s es := by
  induction es generalizing s with
  | nil => simp
  | cons e es ih =>
      rw [run_cons, along_cons, ← hout s e hs, ← ih (hstep s e hs)]
      simp only [List.mem_append, or_imp, forall_and]

/-- The events a run is left with when each event is dropped that `keep`
refuses in the state where the full run takes it. -/
def kept (M : Machine σ ε ο) (keep : σ → ε → Bool) : σ → List ε → List ε
  | _, [] => []
  | s, e :: es =>
      if keep s e then e :: M.kept keep (M.step s e).1 es else M.kept keep (M.step s e).1 es

/-- With a filter that looks at the event alone, the kept events are the
filtered list. -/
theorem kept_eq_filter (M : Machine σ ε ο) (keep : ε → Bool) (s : σ) (es : List ε) :
    M.kept (fun _ e => keep e) s es = es.filter keep := by
  induction es generalizing s with
  | nil => rfl
  | cons e es ih =>
      simp only [kept, List.filter_cons, ih]

/-- The erasure rule. `R` relates the states of a machine `M` that takes
every event with those of a machine `N` that takes the kept ones only; a
kept step puts out the same observations on both sides, a dropped one puts
out none. Then the two runs are observed alike. -/
theorem run_kept (M : Machine σ ε ο) (N : Machine τ ε ω) (keep : σ → ε → Bool)
    {R : σ → τ → Prop} {C : σ → ε → Prop} {κ : Type*}
    {p : ο → Option κ} {q : ω → Option κ}
    (hkeep : ∀ s t e, R s t → C s e → keep s e = true →
      R (M.step s e).1 (N.step t e).1 ∧
        (M.step s e).2.filterMap p = (N.step t e).2.filterMap q)
    (hdrop : ∀ s t e, R s t → C s e → keep s e = false →
      R (M.step s e).1 t ∧ (M.step s e).2.filterMap p = [])
    {s : σ} {t : τ} {es : List ε} (hR : R s t) (hC : M.Along C s es) :
    R (M.run s es).1 (N.run t (M.kept keep s es)).1 ∧
      (M.run s es).2.filterMap p =
        (N.run t (M.kept keep s es)).2.filterMap q := by
  induction es generalizing s t with
  | nil => exact ⟨hR, rfl⟩
  | cons e es ih =>
      cases hk : keep s e with
      | true =>
          obtain ⟨hR', hout⟩ := hkeep s t e hR hC.1 hk
          obtain ⟨hend, houts⟩ := ih hR' hC.2
          simp only [kept, hk, if_true, run_cons, List.filterMap_append, hout, houts]
          exact ⟨hend, trivial⟩
      | false =>
          obtain ⟨hR', hout⟩ := hdrop s t e hR hC.1 hk
          obtain ⟨hend, houts⟩ := ih hR' hC.2
          simp only [kept, hk, Bool.false_eq_true, if_false, run_cons,
            List.filterMap_append, hout, List.nil_append, houts]
          exact ⟨hend, trivial⟩

/-- The simulation rule: both machines take every event, and put out the
same observations. -/
theorem run_simulation (M : Machine σ ε ο) (N : Machine τ ε ω) {R : σ → τ → Prop}
    {C : σ → ε → Prop} {κ : Type*} {p : ο → Option κ} {q : ω → Option κ}
    (hstep : ∀ s t e, R s t → C s e → R (M.step s e).1 (N.step t e).1 ∧
      (M.step s e).2.filterMap p = (N.step t e).2.filterMap q)
    {s : σ} {t : τ} {es : List ε} (hR : R s t) (hC : M.Along C s es) :
    R (M.run s es).1 (N.run t es).1 ∧
      (M.run s es).2.filterMap p = (N.run t es).2.filterMap q := by
  have hall : M.kept (fun _ _ => true) s es = es := by
    rw [kept_eq_filter M (fun _ => true), List.filter_true]
  have hrun := M.run_kept N (fun _ _ => true) (fun s t e hR hC _ => hstep s t e hR hC)
    (fun _ _ _ _ _ hfalse => by simp at hfalse) hR hC
  rwa [hall] at hrun

/-- The finer events a run is made of, when an event in a state stands for a
list of them. -/
def flatten {δ : Type*} (M : Machine σ ε ο) (acts : σ → ε → List δ) : σ → List ε → List δ
  | _, [] => []
  | s, e :: es => acts s e ++ M.flatten acts (M.step s e).1 es

theorem flatten_append {δ : Type*} (M : Machine σ ε ο) (acts : σ → ε → List δ) (s : σ)
    (es fs : List ε) :
    M.flatten acts s (es ++ fs) =
      M.flatten acts s es ++ M.flatten acts (M.run s es).1 fs := by
  induction es generalizing s with
  | nil => rfl
  | cons e es ih => rw [List.cons_append, flatten, flatten, run_cons, ih, List.append_assoc]

/-- A property of all finer events of a run, step by step of the run. -/
theorem forall_flatten_iff {δ : Type*} (M : Machine σ ε ο) (acts : σ → ε → List δ)
    (P : δ → Prop) (s : σ) (es : List ε) :
    (∀ a ∈ M.flatten acts s es, P a) ↔ M.Along (fun s e => ∀ a ∈ acts s e, P a) s es := by
  induction es generalizing s with
  | nil => exact iff_of_true (fun a ha => absurd ha List.not_mem_nil) trivial
  | cons e es ih =>
      rw [along_cons, ← ih, flatten]
      simp only [List.mem_append, or_imp, forall_and]

theorem forall_flatten {δ : Type*} (M : Machine σ ε ο) {acts : σ → ε → List δ} {P : δ → Prop}
    {es : List ε} (h : ∀ s, ∀ e ∈ es, ∀ a ∈ acts s e, P a) (s : σ) :
    ∀ a ∈ M.flatten acts s es, P a :=
  (M.forall_flatten_iff acts P s es).mpr (M.along_of_forall h s)

/-- The refinement rule: a machine whose steps are runs of a finer one runs
as the finer one does. -/
theorem run_flatten {δ : Type*} (M : Machine σ ε ο) (N : Machine σ δ ο)
    (acts : σ → ε → List δ) (hstep : ∀ s e, M.step s e = N.run s (acts s e)) (s : σ)
    (es : List ε) : M.run s es = N.run s (M.flatten acts s es) := by
  induction es generalizing s with
  | nil => rfl
  | cons e es ih => rw [run_cons, flatten, run_append, ← hstep, ih]

/-- The same for a part of the state: if the finer machine runs on it as the
steps go, it does as the run goes. -/
theorem run_flatten_part {δ : Type*} (M : Machine σ ε ο) (N : Machine τ δ ω) (part : σ → τ)
    (acts : σ → ε → List δ) (hstep : ∀ s e, part (M.step s e).1 = (N.run (part s) (acts s e)).1)
    (s : σ) (es : List ε) :
    part (M.run s es).1 = (N.run (part s) (M.flatten acts s es)).1 := by
  induction es generalizing s with
  | nil => rfl
  | cons e es ih =>
      rw [run_cons, flatten, run_append, ← hstep]
      exact ih (M.step s e).1

/-- The state rule with a condition: if a step keeps the invariant, and keeps
a property just when it meets the condition, the property holds after every
part of a run just when every step does. -/
theorem run_prefix_iff (M : Machine σ ε ο) {I : σ → Prop} {C : σ → ε → Prop} {P : σ → Prop}
    (hinv : ∀ s e, I s → I (M.step s e).1)
    (hstep : ∀ s e, I s → P s → (P (M.step s e).1 ↔ C s e)) {s : σ} {es : List ε}
    (hs : I s) (hP : P s) : (∀ pre, pre <+: es → P (M.run s pre).1) ↔ M.Along C s es := by
  induction es generalizing s with
  | nil => simp [hP]
  | cons e es ih =>
      rw [along_cons, ← hstep s e hs hP]
      constructor
      · intro h
        have hnext : P (M.step s e).1 := h [e] (List.prefix_append _ _)
        refine ⟨hnext, (ih (hinv s e hs) hnext).mp fun pre hpre => ?_⟩
        exact h (e :: pre) (List.prefix_cons_iff.mpr (.inr ⟨pre, rfl, hpre⟩))
      · rintro ⟨hnext, h⟩ pre hpre
        rcases List.prefix_cons_iff.mp hpre with rfl | ⟨rest, rfl, hrest⟩
        · exact hP
        · exact (ih (hinv s e hs) hnext).mpr h rest hrest

/-- The loop rule for places: if every event is a place, and its step changes
what is at that place and nothing else, then a run over different places
changes each of them as one step does. -/
theorem run_places [DecidableEq ε] {α β : Type*} (M : Machine σ ε ο) (part : σ → ε → α)
    (rest : σ → β) (turn : β → ε → α → α)
    (hpart : ∀ s e, part (M.step s e).1 = Function.update (part s) e (turn (rest s) e (part s e)))
    (hrest : ∀ s e, rest (M.step s e).1 = rest s) {es : List ε} (hes : es.Nodup) (s : σ) :
    rest (M.run s es).1 = rest s ∧
      ∀ e, part (M.run s es).1 e = if e ∈ es then turn (rest s) e (part s e) else part s e := by
  induction es generalizing s with
  | nil => exact ⟨rfl, fun e => (if_neg List.not_mem_nil).symm⟩
  | cons e es ih =>
      obtain ⟨hnew, hes⟩ := List.nodup_cons.mp hes
      obtain ⟨hrun, hplaces⟩ := ih hes (M.step s e).1
      refine ⟨hrun.trans (hrest s e), fun e' => ?_⟩
      rw [run_cons, hplaces, hrest, hpart]
      by_cases heq : e' = e
      · subst heq
        rw [if_neg hnew, Function.update_self, if_pos List.mem_cons_self]
      · rw [Function.update_of_ne heq]
        simp only [List.mem_cons, heq, false_or]

end Machine

end ElasticFrame.Lib
