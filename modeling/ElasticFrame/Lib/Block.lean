import Mathlib

/-!
A block of heap memory that starts out indeterminate, and the copies made
into it. Every copy is recorded with the regions it reads and writes, so
that "no copy leaves its buffers" is a statement about the block, and a cell
no copy has reached is `none`, so that "this byte was written" is one too.
-/

namespace ElasticFrame.Lib

/-- Where a copy reads from: a byte string of a given length, or the block
it writes to. -/
inductive CopySource
  | bytes (length : ℕ)
  | self
  deriving DecidableEq, Repr

/-- One `memcpy` or `memmove`: `len` bytes at `src` of the source go to
`dst` of the block. -/
structure Copy where
  source : CopySource
  src : ℕ
  dst : ℕ
  len : ℕ
  deriving DecidableEq, Repr

/-- A block as the allocator returns it and the copies leave it. -/
structure Block where
  size : ℕ
  cell : ℕ → Option UInt8
  copies : List Copy

/-- The copy reads inside its source and writes inside a block of `size`
bytes. -/
def Copy.InBounds (size : ℕ) (c : Copy) : Prop :=
  c.dst + c.len ≤ size ∧
    match c.source with
    | .bytes n => c.src + c.len ≤ n
    | .self => c.src + c.len ≤ size

instance (size : ℕ) (c : Copy) : Decidable (c.InBounds size) := by
  unfold Copy.InBounds
  cases c.source <;> exact inferInstanceAs (Decidable (_ ∧ _))

namespace Block

/-- A fresh block: its contents are indeterminate. -/
def alloc (size : ℕ) : Block := { size := size, cell := fun _ => none, copies := [] }

/-- `memcpy(block + dst, bytes + src, len)`. A read past the end of `bytes`
yields an indeterminate cell. -/
def memcpy (b : Block) (dst : ℕ) (bytes : List UInt8) (src len : ℕ) : Block :=
  { b with
    cell := fun i => if dst ≤ i ∧ i < dst + len then bytes[src + (i - dst)]? else b.cell i
    copies := b.copies ++ [{ source := .bytes bytes.length, src, dst, len }] }

/-- `memmove(block + dst, block + src, len)`: the regions may overlap. -/
def memmove (b : Block) (dst src len : ℕ) : Block :=
  { b with
    cell := fun i => if dst ≤ i ∧ i < dst + len then b.cell (src + (i - dst)) else b.cell i
    copies := b.copies ++ [{ source := .self, src, dst, len }] }

/-- No copy made so far left its source or the block. -/
def Sound (b : Block) : Prop := ∀ c ∈ b.copies, c.InBounds b.size

@[simp] theorem size_alloc (n : ℕ) : (alloc n).size = n := rfl
@[simp] theorem cell_alloc (n i : ℕ) : (alloc n).cell i = none := rfl

@[simp] theorem size_memcpy (b : Block) (dst : ℕ) (bytes : List UInt8) (src len : ℕ) :
    (b.memcpy dst bytes src len).size = b.size := rfl

@[simp] theorem size_memmove (b : Block) (dst src len : ℕ) :
    (b.memmove dst src len).size = b.size := rfl

theorem cell_memcpy (b : Block) (dst : ℕ) (bytes : List UInt8) (src len i : ℕ) :
    (b.memcpy dst bytes src len).cell i =
      if dst ≤ i ∧ i < dst + len then bytes[src + (i - dst)]? else b.cell i := rfl

theorem cell_memmove (b : Block) (dst src len i : ℕ) :
    (b.memmove dst src len).cell i =
      if dst ≤ i ∧ i < dst + len then b.cell (src + (i - dst)) else b.cell i := rfl

theorem cell_memcpy_of_outside {b : Block} {dst : ℕ} {bytes : List UInt8} {src len i : ℕ}
    (h : i < dst ∨ dst + len ≤ i) : (b.memcpy dst bytes src len).cell i = b.cell i := by
  rw [cell_memcpy, if_neg (by omega)]

theorem cell_memmove_of_outside {b : Block} {dst src len i : ℕ}
    (h : i < dst ∨ dst + len ≤ i) : (b.memmove dst src len).cell i = b.cell i := by
  rw [cell_memmove, if_neg (by omega)]

theorem cell_memcpy_add {b : Block} {dst : ℕ} {bytes : List UInt8} {src len j : ℕ}
    (h : j < len) : (b.memcpy dst bytes src len).cell (dst + j) = bytes[src + j]? := by
  rw [cell_memcpy, if_pos (by omega), Nat.add_sub_cancel_left]

theorem cell_memmove_add {b : Block} {dst src len j : ℕ} (h : j < len) :
    (b.memmove dst src len).cell (dst + j) = b.cell (src + j) := by
  rw [cell_memmove, if_pos (by omega), Nat.add_sub_cancel_left]

theorem sound_alloc (n : ℕ) : (alloc n).Sound := by
  intro c hc
  exact absurd hc (by simp [alloc])

theorem Sound.memcpy {b : Block} (h : b.Sound) {dst : ℕ} {bytes : List UInt8} {src len : ℕ}
    (hdst : dst + len ≤ b.size) (hsrc : src + len ≤ bytes.length) :
    (b.memcpy dst bytes src len).Sound := by
  intro c hc
  rcases List.mem_append.mp hc with hc | hc
  · exact h c hc
  · rw [List.mem_singleton.mp hc]
    exact ⟨hdst, hsrc⟩

theorem Sound.memmove {b : Block} (h : b.Sound) {dst src len : ℕ}
    (hdst : dst + len ≤ b.size) (hsrc : src + len ≤ b.size) :
    (b.memmove dst src len).Sound := by
  intro c hc
  rcases List.mem_append.mp hc with hc | hc
  · exact h c hc
  · rw [List.mem_singleton.mp hc]
    exact ⟨hdst, hsrc⟩

end Block

/-- The region `[lo, lo + bs.length)` of the block holds exactly `bs`. -/
def Block.Holds (b : Block) (lo : ℕ) (bs : List UInt8) : Prop :=
  ∀ j < bs.length, b.cell (lo + j) = bs[j]?

theorem Block.holds_nil (b : Block) (lo : ℕ) : b.Holds lo [] := by
  intro j hj
  simp at hj

theorem Block.Holds.memcpy {b : Block} {lo : ℕ} {bs : List UInt8} (h : b.Holds lo bs)
    {dst : ℕ} {bytes : List UInt8} {src len : ℕ}
    (hdisj : lo + bs.length ≤ dst ∨ dst + len ≤ lo) :
    (b.memcpy dst bytes src len).Holds lo bs := by
  intro j hj
  rw [Block.cell_memcpy_of_outside (by omega)]
  exact h j hj

theorem Block.Holds.memmove {b : Block} {lo : ℕ} {bs : List UInt8} (h : b.Holds lo bs)
    {dst src len : ℕ} (hdisj : lo + bs.length ≤ dst ∨ dst + len ≤ lo) :
    (b.memmove dst src len).Holds lo bs := by
  intro j hj
  rw [Block.cell_memmove_of_outside (by omega)]
  exact h j hj

theorem Block.holds_memcpy (b : Block) (dst : ℕ) (bytes : List UInt8) (src : ℕ) :
    (b.memcpy dst bytes src (bytes.length - src)).Holds dst (bytes.drop src) := by
  intro j hj
  rw [List.length_drop] at hj
  rw [Block.cell_memcpy_add hj, List.getElem?_drop]

/-- A move carries what its source region held to its destination. -/
theorem Block.Holds.moved {b : Block} {src : ℕ} {bs : List UInt8} (h : b.Holds src bs)
    (dst : ℕ) : (b.memmove dst src bs.length).Holds dst bs := by
  intro j hj
  rw [Block.cell_memmove_add hj]
  exact h j hj

theorem Block.Holds.append {b : Block} {lo : ℕ} {bs bs' : List UInt8} (h : b.Holds lo bs)
    (h' : b.Holds (lo + bs.length) bs') : b.Holds lo (bs ++ bs') := by
  intro j hj
  rw [List.length_append] at hj
  rcases Nat.lt_or_ge j bs.length with hlt | hge
  · rw [List.getElem?_append_left hlt]
    exact h j hlt
  · have hcell := h' (j - bs.length) (by omega)
    rw [List.getElem?_append_right hge, ← hcell]
    congr 1
    omega

theorem Block.holds_flatten {b : Block} {lo size : ℕ} {pieces : List (List UInt8)}
    (h : ∀ k (hk : k < pieces.length),
      pieces[k].length = size ∧ b.Holds (lo + size * k) pieces[k]) :
    b.Holds lo pieces.flatten := by
  induction pieces generalizing lo with
  | nil => exact b.holds_nil lo
  | cons piece pieces ih =>
      obtain ⟨hlength, hfirst⟩ := h 0 (Nat.succ_pos _)
      rw [List.getElem_cons_zero, Nat.mul_zero, Nat.add_zero] at hfirst
      rw [List.getElem_cons_zero] at hlength
      rw [List.flatten_cons]
      refine hfirst.append (ih fun k hk => ?_)
      obtain ⟨hlength', hholds⟩ := h (k + 1) (Nat.succ_lt_succ hk)
      rw [List.getElem_cons_succ] at hlength' hholds
      rw [Nat.mul_succ, Nat.add_comm (size * k), ← Nat.add_assoc] at hholds
      rw [hlength]
      exact ⟨hlength', hholds⟩

theorem Block.Holds.cells {b : Block} {bs : List UInt8} (h : b.Holds 0 bs) :
    (List.range bs.length).map b.cell = bs.map some := by
  apply List.ext_getElem
  · rw [List.length_map, List.length_range, List.length_map]
  · intro j hj _
    have hlt : j < bs.length := by simpa using hj
    have hcell := h j hlt
    rw [Nat.zero_add, List.getElem?_eq_getElem hlt] at hcell
    rw [List.getElem_map, List.getElem_range, List.getElem_map, hcell]

end ElasticFrame.Lib
