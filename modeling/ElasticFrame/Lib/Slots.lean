import ElasticFrame.Lib.Machine

/-!
Objects under numbers that are counted up. Each object is a machine, in a state
or gone (`none`), and a call names the number of its object. No number is given
out twice, so each object goes through what it would go through alone.
-/

namespace ElasticFrame.Lib

/-- The objects, and the number for the next one. -/
structure Slots (σ : Type*) where
  slot : ℕ → Option σ
  next : ℕ

inductive SlotEvent (σ ε : Type*)
  | create (s : σ)
  | call (h : ℕ) (e : ε)

namespace Slots

variable {σ ε ο : Type*}

/-- Puts out each number that is given out, and each output of an object with
its number. -/
def machine (M : Machine (Option σ) ε ο) :
    Machine (Slots σ) (SlotEvent σ ε) (ℕ × Option ο) where
  step t
    | .create s =>
        ({ slot := Function.update t.slot t.next (some s), next := t.next + 1 }, [(t.next, none)])
    | .call h e =>
        ({ t with slot := Function.update t.slot h (M.step (t.slot h) e).1 },
          (M.step (t.slot h) e).2.map fun o => (h, some o))

def creations : List (SlotEvent σ ε) → ℕ
  | [] => 0
  | .create _ :: es => creations es + 1
  | .call _ _ :: es => creations es

def callsOf (h : ℕ) : List (SlotEvent σ ε) → List ε :=
  List.filterMap fun
    | .create _ => none
    | .call h' e => if h' = h then some e else none

def outputsOf (h : ℕ) : List (ℕ × Option ο) → List ο :=
  List.filterMap fun o => if o.1 = h then o.2 else none

def given (os : List (ℕ × Option ο)) : List ℕ :=
  os.filterMap fun o => if o.2.isNone then some o.1 else none

theorem creations_append (es fs : List (SlotEvent σ ε)) :
    creations (es ++ fs) = creations es + creations fs := by
  induction es with
  | nil => exact (Nat.zero_add _).symm
  | cons e es ih =>
      cases e with
      | create s =>
          simp only [List.cons_append, creations, ih]
          omega
      | call h e => exact ih

theorem outputsOf_append (h : ℕ) (os os' : List (ℕ × Option ο)) :
    outputsOf h (os ++ os') = outputsOf h os ++ outputsOf h os' := List.filterMap_append

theorem outputsOf_map_self (h : ℕ) (os : List ο) :
    outputsOf h (os.map fun o => (h, some o)) = os := by
  rw [outputsOf, List.filterMap_map]
  simp only [Function.comp_def, if_true]
  exact List.filterMap_some

theorem outputsOf_map_of_ne {h h' : ℕ} (hne : h' ≠ h) (os : List ο) :
    outputsOf h (os.map fun o => (h', some o)) = [] := by
  rw [outputsOf, List.filterMap_map]
  simp only [Function.comp_def, if_neg hne]
  exact List.filterMap_eq_nil_iff.mpr fun _ _ => rfl

variable (M : Machine (Option σ) ε ο)

theorem next_run (t : Slots σ) (es : List (SlotEvent σ ε)) :
    ((machine M).run t es).1.next = t.next + creations es := by
  induction es generalizing t with
  | nil => rfl
  | cons e es ih =>
      rw [Machine.run_cons, ih]
      cases e with
      | create s =>
          simp only [machine, creations]
          omega
      | call h e => rfl

/-- The numbers that are given out are those from `next` on, in order. -/
theorem given_run (t : Slots σ) (es : List (SlotEvent σ ε)) :
    given ((machine M).run t es).2 = List.range' t.next (creations es) := by
  induction es generalizing t with
  | nil => rfl
  | cons e es ih =>
      rw [Machine.run_cons, given, List.filterMap_append]
      change given _ ++ given _ = _
      rw [ih]
      cases e with
      | create s => exact List.range'_succ.symm
      | call h e =>
          have hnone : given ((M.step (t.slot h) e).2.map fun o => (h, some o)) = [] := by
            rw [given, List.filterMap_map]
            exact List.filterMap_eq_nil_iff.mpr fun _ _ => rfl
          simp only [machine, creations, hnone, List.nil_append]

/-- As long as its number is not given out, an object goes through what it would
go through alone. -/
theorem run_slot {h : ℕ} {t : Slots σ} {es : List (SlotEvent σ ε)}
    (hnew : h < t.next ∨ t.next + creations es ≤ h) :
    ((machine M).run t es).1.slot h = (M.run (t.slot h) (callsOf h es)).1 ∧
      outputsOf h ((machine M).run t es).2 = (M.run (t.slot h) (callsOf h es)).2 := by
  induction es generalizing t with
  | nil => exact ⟨rfl, rfl⟩
  | cons e es ih =>
      rw [Machine.run_cons, outputsOf_append]
      cases e with
      | create s =>
          rw [creations] at hnew
          have hne : h ≠ t.next := by omega
          obtain ⟨hslot, hout⟩ := ih (t := ((machine M).step t (.create s)).1) (by
            simp only [machine]
            omega)
          have hkept : ((machine M).step t (.create s)).1.slot h = t.slot h :=
            Function.update_of_ne hne _ _
          have hquiet : outputsOf h ((machine M).step t (.create s)).2 = [] := by
            simp [machine, outputsOf]
          rw [hslot, hout, hkept, hquiet]
          exact ⟨rfl, rfl⟩
      | call h' e =>
          obtain ⟨hslot, hout⟩ := ih (t := ((machine M).step t (.call h' e)).1) hnew
          rw [hslot, hout]
          by_cases heq : h' = h
          · subst heq
            have hcalls : callsOf h' (.call h' e :: es : List (SlotEvent σ ε)) =
                e :: callsOf h' es := by
              simp [callsOf]
            have hstep : ((machine M).step t (.call h' e)).1.slot h' = (M.step (t.slot h') e).1 :=
              Function.update_self _ _ _
            rw [hcalls, Machine.run_cons, hstep]
            refine ⟨rfl, congrArg (· ++ _) ?_⟩
            exact outputsOf_map_self h' _
          · have hcalls : callsOf h (.call h' e :: es : List (SlotEvent σ ε)) = callsOf h es := by
              simp [callsOf, heq]
            have hstep : ((machine M).step t (.call h' e)).1.slot h = t.slot h :=
              Function.update_of_ne (Ne.symm heq) _ _
            have hquiet : outputsOf h ((machine M).step t (.call h' e)).2 = [] :=
              outputsOf_map_of_ne heq _
            rw [hcalls, hstep, hquiet]
            exact ⟨rfl, rfl⟩

/-- What is put out under a number: the refusals before it is given out, and then
what the object puts out alone. -/
theorem outputsOf_run (t : Slots σ) (before : List (SlotEvent σ ε)) (s : σ)
    (after : List (SlotEvent σ ε)) :
    let h := t.next + creations before
    outputsOf h ((machine M).run t (before ++ .create s :: after)).2 =
      (M.run (t.slot h) (callsOf h before)).2 ++ (M.run (some s) (callsOf h after)).2 := by
  intro h
  have hbefore : outputsOf h ((machine M).run t before).2 =
      (M.run (t.slot h) (callsOf h before)).2 := (run_slot M (.inr le_rfl)).2
  have hnext : ((machine M).run t before).1.next = h := next_run M t before
  rw [Machine.run_append, Machine.run_cons, outputsOf_append, outputsOf_append, hbefore]
  generalize ((machine M).run t before).1 = t' at hnext ⊢
  have hcreated : ((machine M).step t' (.create s)).1.slot h = some s := by
    rw [← hnext]
    exact Function.update_self _ _ _
  have hlater : h < ((machine M).step t' (.create s)).1.next := by
    rw [← hnext]
    exact Nat.lt_succ_self _
  have hquiet : outputsOf h ((machine M).step t' (.create s)).2 = [] := by
    simp [machine, outputsOf]
  rw [(run_slot M (.inl hlater)).2, hcreated, hquiet, List.nil_append]

end Slots

end ElasticFrame.Lib
