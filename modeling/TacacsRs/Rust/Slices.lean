import Mathlib.Data.List.SplitLengths
import TacacsRs.Rust.Bytes

/-!
# Consecutive slices

Slices of given lengths, cut one after another from the front of a buffer.
-/

namespace TacacsRs.Rust

variable {α : Type}

theorem splitLengths_flatten_append (slices : List (List α)) (rest : List α) :
    (slices.map List.length).splitLengths (slices.flatten ++ rest) = slices := by
  induction slices with
  | nil => rfl
  | cons slice slices ih =>
      rw [List.map_cons, List.splitLengths_cons, List.flatten_cons, List.append_assoc,
        List.take_left, List.drop_left, ih]

theorem flatten_splitLengths_append_drop (sizes : List Nat) (data : List α) :
    (sizes.splitLengths data).flatten ++ data.drop sizes.sum = data := by
  induction sizes generalizing data with
  | nil => simp
  | cons n sizes ih =>
      have htail := ih (data.drop n)
      rw [List.drop_drop] at htail
      rw [List.splitLengths_cons, List.flatten_cons, List.sum_cons, List.append_assoc, htail,
        List.take_append_drop]

/-- The slices at the front of a long enough buffer are determined by their lengths. -/
theorem eq_splitLengths_iff {sizes : List Nat} {data : List α} {slices : List (List α)}
    (h : sizes.sum ≤ data.length) :
    slices = sizes.splitLengths data ↔
      slices.map List.length = sizes ∧ ∃ rest, data = slices.flatten ++ rest := by
  constructor
  · rintro rfl
    exact ⟨List.map_splitLengths_length data sizes h, data.drop sizes.sum,
      (flatten_splitLengths_append_drop sizes data).symm⟩
  · rintro ⟨rfl, rest, rfl⟩
    exact (splitLengths_flatten_append slices rest).symm

/-- Cutting slices one after another comes to a slice that is longer than what is left. -/
def RunsOut : List Nat → List α → Prop
  | [], _ => False
  | size :: sizes, data => data.length < size ∨ RunsOut sizes (data.drop size)

/-- The slices that are cut before the data runs out. -/
def completeSlices : List Nat → List α → List (List α)
  | [], _ => []
  | size :: sizes, data =>
      if data.length < size then [] else data.take size :: completeSlices sizes (data.drop size)

/-- The data runs out exactly when the slices have more entries than it. -/
theorem runsOut_iff {sizes : List Nat} {data : List α} :
    RunsOut sizes data ↔ data.length < sizes.sum := by
  induction sizes generalizing data with
  | nil => simp [RunsOut]
  | cons size sizes ih =>
      rw [RunsOut, ih, List.length_drop, List.sum_cons]
      omega

theorem completeSlices_cons {size : Nat} {data : List α} (h : size ≤ data.length)
    (sizes : List Nat) : completeSlices (size :: sizes) data =
      data.take size :: completeSlices sizes (data.drop size) := by
  rw [completeSlices, if_neg (Nat.not_lt.mpr h)]

/-- Slices are the bytes of some texts exactly when each of them is valid UTF-8. -/
theorem exists_map_asBytes_eq_iff {slices : List (List UInt8)} :
    (∃ texts : List String, texts.map asBytes = slices) ↔ ∀ slice ∈ slices, ValidUtf8 slice := by
  induction slices with
  | nil => simp
  | cons slice slices ih =>
      rw [List.forall_mem_cons, ← ih, validUtf8_iff]
      constructor
      · rintro ⟨texts, htexts⟩
        cases texts with
        | nil => simp at htexts
        | cons text texts =>
            rw [List.map_cons, List.cons.injEq] at htexts
            exact ⟨⟨text, htexts.1⟩, texts, htexts.2⟩
      · rintro ⟨⟨text, rfl⟩, texts, rfl⟩
        exact ⟨text :: texts, rfl⟩

end TacacsRs.Rust
