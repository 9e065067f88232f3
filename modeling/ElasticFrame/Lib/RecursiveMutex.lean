import Mathlib

/-!
A mutex that the thread holding it may lock again.
-/

namespace ElasticFrame.Lib

/-- Free, or held by a thread that has locked it `again` times more. -/
inductive RecursiveMutex (θ : Type*)
  | free
  | held (t : θ) (again : ℕ)

namespace RecursiveMutex

variable {θ : Type*}

def holder : RecursiveMutex θ → Option θ
  | free => none
  | held t _ => some t

/-- Locking, for a thread that need not wait. -/
def lock [DecidableEq θ] (t : θ) : RecursiveMutex θ → Option (RecursiveMutex θ)
  | free => some (held t 0)
  | held u again => if u = t then some (held t (again + 1)) else none

def unlock : RecursiveMutex θ → RecursiveMutex θ
  | free => free
  | held _ 0 => free
  | held t (again + 1) => held t again

/-- How often a thread has locked the mutex and not unlocked it. -/
def depth [DecidableEq θ] (t : θ) : RecursiveMutex θ → ℕ
  | free => 0
  | held u again => if u = t then again + 1 else 0

variable [DecidableEq θ] {m m' : RecursiveMutex θ} {t u : θ}

theorem holder_eq_some_iff : m.holder = some t ↔ 0 < m.depth t := by
  cases m with
  | free => simp [holder, depth]
  | held u again => by_cases h : u = t <;> simp [holder, depth, h]

theorem depth_eq_zero (h : m.holder = some t) (hne : u ≠ t) : m.depth u = 0 := by
  cases m with
  | free => rfl
  | held v again =>
      obtain rfl : v = t := Option.some.inj h
      simp [depth, Ne.symm hne]

theorem lock_eq_none (h : m.holder = some t) (hne : u ≠ t) : m.lock u = none := by
  cases m with
  | free => cases h
  | held v again =>
      obtain rfl : v = t := Option.some.inj h
      rw [lock, if_neg hne.symm]

theorem depth_lock (h : m.lock t = some m') : m'.depth t = m.depth t + 1 := by
  cases m with
  | free =>
      obtain rfl := Option.some.inj h
      simp [depth]
  | held v again =>
      rw [lock] at h
      split_ifs at h with hv
      obtain rfl := Option.some.inj h
      simp [depth, hv]

theorem depth_lock_of_ne (h : m.lock t = some m') (hne : u ≠ t) :
    m'.depth u = 0 ∧ m.depth u = 0 := by
  cases m with
  | free =>
      obtain rfl := Option.some.inj h
      simp [depth, Ne.symm hne]
  | held v again =>
      rw [lock] at h
      split_ifs at h with hv
      obtain rfl := Option.some.inj h
      simp [depth, hv, Ne.symm hne]

theorem depth_unlock (h : 0 < m.depth t) : m.unlock.depth t + 1 = m.depth t := by
  cases m with
  | free => simp [depth] at h
  | held v again =>
      by_cases hv : v = t
      · cases again <;> simp [unlock, depth, hv]
      · simp [depth, hv] at h

theorem depth_unlock_of_ne (h : 0 < m.depth t) (hne : u ≠ t) :
    m.unlock.depth u = 0 ∧ m.depth u = 0 := by
  cases m with
  | free => simp [depth] at h
  | held v again =>
      by_cases hv : v = t
      · cases again <;> simp [unlock, depth, hv, Ne.symm hne]
      · simp [depth, hv] at h

theorem depth_lock_other (h : m.lock t = some m') (hne : u ≠ t) : m'.depth u = m.depth u := by
  obtain ⟨hafter, hbefore⟩ := depth_lock_of_ne h hne
  rw [hafter, hbefore]

theorem depth_unlock_other (h : 0 < m.depth t) (hne : u ≠ t) : m.unlock.depth u = m.depth u := by
  obtain ⟨hafter, hbefore⟩ := depth_unlock_of_ne h hne
  rw [hafter, hbefore]

theorem depth_unlock_of_eq {n : ℕ} (h : m.depth t = n + 1) : m.unlock.depth t = n := by
  have hunlock : m.unlock.depth t + 1 = m.depth t := depth_unlock (h ▸ Nat.succ_pos n)
  exact Nat.succ_injective (hunlock.trans h)

end RecursiveMutex

end ElasticFrame.Lib
