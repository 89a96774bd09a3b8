import Mathlib.Data.List.Basic

/-!
# Streams of blocks

A stream is given by its blocks, which all have the same width. What stands at
its front does not depend on how many blocks have been made.
-/

namespace TacacsRs.Rust

variable {α : Type} {width : Nat} {block : Nat → List α}

/-- The first `n` blocks, one after the other. -/
def blocks (block : Nat → List α) (n : Nat) : List α := (List.range n).flatMap block

theorem blocks_succ (n : Nat) : blocks block (n + 1) = blocks block n ++ block n := by
  rw [blocks, List.range_succ, List.flatMap_append, List.flatMap_singleton]
  rfl

theorem length_blocks (hwidth : ∀ i, (block i).length = width) (n : Nat) :
    (blocks block n).length = width * n := by
  induction n with
  | zero => rfl
  | succ n ih => rw [blocks_succ, List.length_append, ih, hwidth, Nat.mul_succ]

theorem blocks_prefix (block : Nat → List α) {m n : Nat} (h : m ≤ n) :
    blocks block m <+: blocks block n := by
  obtain ⟨added, rfl⟩ := Nat.exists_eq_add_of_le h
  induction added with
  | zero => exact List.prefix_rfl
  | succ added ih =>
      rw [← Nat.add_assoc, blocks_succ]
      exact (ih (Nat.le_add_right m added)).trans (List.prefix_append _ _)

/-- Blocks that cover the same front of the stream agree on it. -/
theorem take_blocks (hwidth : ∀ i, (block i).length = width) {m n size : Nat}
    (hm : size ≤ width * m) (hn : size ≤ width * n) :
    (blocks block m).take size = (blocks block n).take size := by
  wlog h : m ≤ n generalizing m n
  · exact (this hn hm (Nat.le_of_not_le h)).symm
  obtain ⟨rest, hrest⟩ := blocks_prefix block h
  rw [← hrest, List.take_append_of_le_length]
  rwa [length_blocks hwidth]

/-- The entry `j` of the block `i` stands behind `i` blocks. -/
theorem getElem?_blocks (hwidth : ∀ i, (block i).length = width) {n i j : Nat} (hi : i < n)
    (hj : j < width) : (blocks block n)[width * i + j]? = (block i)[j]? := by
  obtain ⟨rest, hrest⟩ := blocks_prefix block (Nat.succ_le_of_lt hi)
  have hlength := length_blocks hwidth i
  rw [← hrest, blocks_succ, List.append_assoc, List.getElem?_append_right (by omega), hlength,
    Nat.add_sub_cancel_left, List.getElem?_append_left (by rwa [hwidth])]

end TacacsRs.Rust
