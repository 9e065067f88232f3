import Mathlib

/-!
A buffer that packets are assembled in. Copies overwrite it piece by piece
from the front, and what has been written so far is a prefix of it whatever
it held before. A reader that knows the buffer as an address and offsets finds
the same pieces one behind the other.
-/

namespace ElasticFrame.Lib.Buffer

variable {α : Type*}

/-- `memcpy(buf + off, bytes, bytes.length)`. -/
def overwrite (buf : List α) (off : ℕ) (bytes : List α) : List α :=
  buf.take off ++ bytes ++ buf.drop (off + bytes.length)

/-- A copy leaves the buffer its size just when it stays within it; past the
end it makes the buffer longer. -/
theorem length_overwrite_spec (buf : List α) (off : ℕ) (bytes : List α) :
    buf.length ≤ (overwrite buf off bytes).length ∧
      ((overwrite buf off bytes).length = buf.length ↔
        bytes = [] ∨ off + bytes.length ≤ buf.length) := by
  rw [← List.length_eq_zero_iff]
  simp only [overwrite, List.length_append, List.length_take, List.length_drop]
  omega

theorem length_overwrite {buf : List α} {off : ℕ} {bytes : List α}
    (h : off + bytes.length ≤ buf.length) : (overwrite buf off bytes).length = buf.length :=
  (length_overwrite_spec buf off bytes).2.mpr (.inr h)

theorem prefix_overwrite_zero (buf bytes : List α) : bytes <+: overwrite buf 0 bytes := by
  rw [overwrite, List.take_zero, List.nil_append]
  exact List.prefix_append _ _

theorem prefix_overwrite {buf written : List α} (h : written <+: buf) (bytes : List α) :
    written ++ bytes <+: overwrite buf written.length bytes := by
  rw [overwrite, ← List.prefix_iff_eq_take.mp h]
  exact List.prefix_append _ _

theorem take_of_prefix {buf written : List α} (h : written <+: buf) {n : ℕ}
    (hn : written.length = n) : buf.take n = written := by
  rw [← hn, ← List.prefix_iff_eq_take.mp h]

theorem drop_take_of_prefix {buf written bytes : List α} (h : written ++ bytes <+: buf) {n : ℕ}
    (hn : bytes.length = n) : (buf.drop written.length).take n = bytes := by
  obtain ⟨rest, rfl⟩ := h
  rw [List.append_assoc, List.drop_left, ← hn, List.take_left]

/-! ### Regions of a memory -/

def region (mem : ℕ → α) (off n : ℕ) : List α := (List.range' off n).map mem

@[simp] theorem length_region (mem : ℕ → α) (off n : ℕ) : (region mem off n).length = n := by
  rw [region, List.length_map, List.length_range']

/-- The cells from `off` on hold `xs`. -/
def Holds (mem : ℕ → α) (off : ℕ) (xs : List α) : Prop := region mem off xs.length = xs

theorem holds_cons {mem : ℕ → α} {off : ℕ} {x : α} {xs : List α} :
    Holds mem off (x :: xs) ↔ mem off = x ∧ Holds mem (off + 1) xs := by
  rw [Holds, region, List.length_cons, List.range'_succ, List.map_cons, List.cons.injEq]
  rfl

theorem holds_append {mem : ℕ → α} {off : ℕ} {xs ys : List α} :
    Holds mem off (xs ++ ys) ↔ Holds mem off xs ∧ Holds mem (off + xs.length) ys := by
  have hsplit : region mem off (xs ++ ys).length =
      region mem off xs.length ++ region mem (off + xs.length) ys.length := by
    rw [region, List.length_append, ← List.range'_append_1, List.map_append]
    rfl
  rw [Holds, hsplit]
  exact ⟨fun h => List.append_inj h (length_region mem off xs.length),
    fun h => congrArg₂ _ h.1 h.2⟩

theorem holds_getD (xs : List α) (d : α) : Holds (fun i => xs.getD i d) 0 xs := by
  refine List.ext_getElem (length_region _ _ _) fun i hi hi' => ?_
  simp [region, hi']

end ElasticFrame.Lib.Buffer
