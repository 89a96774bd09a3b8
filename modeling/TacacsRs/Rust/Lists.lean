import Mathlib.Algebra.GroupWithZero.Nat
import Mathlib.Data.List.Induction
import Mathlib.Logic.Function.Basic

/-!
# Lists updated at one index

Tables of tasks are lists in which one entry at a time is replaced.
-/

namespace TacacsRs.Rust

variable {α β : Type}

/-- An entry of an updated list is the new entry or one of the old ones at another index. -/
theorem getElem?_set_cases {items : List α} {i j : Nat} {a b : α}
    (h : (items.set i a)[j]? = some b) : (j = i ∧ b = a) ∨ (j ≠ i ∧ items[j]? = some b) := by
  rw [List.getElem?_set] at h
  split at h
  · next heq =>
    split at h
    · exact .inl ⟨heq.symm, by simpa using h.symm⟩
    · simp at h
  · next hne => exact .inr ⟨Ne.symm hne, h⟩

theorem getElem?_append_singleton_cases {items : List α} {a b : α} {j : Nat}
    (h : (items ++ [a])[j]? = some b) : (j = items.length ∧ b = a) ∨ items[j]? = some b := by
  rw [List.getElem?_append] at h
  split at h
  · exact .inr h
  · next hlong =>
    rw [List.getElem?_singleton] at h
    split at h
    · next hzero => exact .inl ⟨by omega, (Option.some.inj h).symm⟩
    · simp at h

theorem getElem?_append_of_some {items : List α} {i : Nat} {a : α} (h : items[i]? = some a)
    (tail : List α) : (items ++ tail)[i]? = some a := by
  rw [List.getElem?_append_left (List.getElem?_eq_some_iff.mp h).1]
  exact h

/-- An entry added behind the others is seen as the default if it is the default. -/
theorem getD_getElem?_append_singleton {items : List α} {i : Nat} {new default : α}
    (h : i = items.length → new = default) :
    (items ++ [new])[i]?.getD default = items[i]?.getD default := by
  rw [List.getElem?_append]
  split
  · rfl
  · next hlong =>
    rw [List.getElem?_eq_none (Nat.le_of_not_lt hlong), List.getElem?_singleton]
    split
    · next hzero => exact h (by omega)
    · rfl

theorem getElem?_set_of_some {items : List α} {i : Nat} {old : α} (h : items[i]? = some old)
    (new : α) : (items.set i new)[i]? = some new :=
  List.getElem?_set_self (List.getElem?_eq_some_iff.mp h).1

theorem set_eq_self_of_some {items : List α} {i : Nat} {a : α} (h : items[i]? = some a) :
    items.set i a = items := by
  obtain ⟨hi, rfl⟩ := List.getElem?_eq_some_iff.mp h
  exact List.set_getElem_self hi

theorem set_inj_of_some {items : List α} {i : Nat} {old a b : α} (h : items[i]? = some old)
    (hset : items.set i a = items.set i b) : a = b := by
  have hentry := congrArg (fun updated => updated[i]?) hset
  simpa only [getElem?_set_of_some h, Option.some.injEq] using hentry

/-- Replacing an entry by one that agrees with it under `f` changes nothing under `f`. -/
theorem map_set_of_eq (f : α → β) {items : List α} {index : Nat} {old new : α}
    (h : items[index]? = some old) (hnew : f new = f old) :
    (items.set index new).map f = items.map f := by
  obtain ⟨hindex, hold⟩ := List.getElem?_eq_some_iff.mp h
  have hmapped : index < (items.map f).length := by simpa using hindex
  have hmap : (items.map f)[index] = f new := by rw [List.getElem_map, hold, hnew]
  rw [List.map_set, ← hmap, List.set_getElem_self]

/-- Replacing an entry changes a sum over the entries by what it changes for that entry. -/
theorem sum_map_set (f : α → Nat) {items : List α} {index : Nat} {old : α}
    (h : items[index]? = some old) (new : α) :
    ((items.set index new).map f).sum + f old = (items.map f).sum + f new := by
  induction items generalizing index with
  | nil => simp at h
  | cons item items ih =>
      cases index with
      | zero =>
          obtain rfl := Option.some.inj h
          simp only [List.set_cons_zero, List.map_cons, List.sum_cons]
          omega
      | succ index =>
          rw [List.getElem?_cons_succ] at h
          have hrest := ih h
          simp only [List.set_cons_succ, List.map_cons, List.sum_cons]
          omega

/-- A sum over the entries is at least the number of those that count. -/
theorem length_le_sum_map {f : α → Nat} {items : List α} {indices : List Nat}
    (hnodup : indices.Nodup) (h : ∀ i ∈ indices, ∃ a, items[i]? = some a ∧ 1 ≤ f a) :
    indices.length ≤ (items.map f).sum := by
  induction items using List.reverseRecOn generalizing indices with
  | nil =>
      cases indices with
      | nil => simp
      | cons i indices => simpa using h i (List.mem_cons_self ..)
  | append_singleton items a ih =>
      have hinner (i : Nat) (hi : i ∈ indices.erase items.length) :
          ∃ b, items[i]? = some b ∧ 1 ≤ f b := by
        obtain ⟨hne, hmem⟩ := (List.Nodup.mem_erase_iff hnodup).mp hi
        obtain ⟨b, hb, hcounts⟩ := h i hmem
        rcases getElem?_append_singleton_cases hb with ⟨rfl, -⟩ | hold
        · exact absurd rfl hne
        · exact ⟨b, hold, hcounts⟩
      have hrest := ih (hnodup.erase _) hinner
      rw [List.map_append, List.sum_append, List.map_singleton, List.sum_singleton]
      by_cases hlast : items.length ∈ indices
      · obtain ⟨b, hb, hcounts⟩ := h items.length hlast
        obtain rfl : a = b := by simpa using hb
        rw [List.length_erase_of_mem hlast] at hrest
        omega
      · rw [List.erase_of_not_mem hlast] at hrest
        omega

/-- Replacing an entry updates every function of the entries at its index. -/
theorem getD_map_set (f : α → β) (default : β) {items : List α} {index : Nat} {old : α}
    (h : items[index]? = some old) (new : α) :
    (fun i => ((items.set index new).map f).getD i default) =
      Function.update (fun i => (items.map f).getD i default) index (f new) := by
  funext i
  have hlength := (List.getElem?_eq_some_iff.mp h).1
  by_cases hi : i = index
  · subst hi
    simp [List.getD_eq_getElem?_getD, hlength]
  · simp [List.getD_eq_getElem?_getD, List.getElem?_set_ne (Ne.symm hi), hi]

theorem getD_map_eq (f : α → β) (default : β) {items : List α} {index : Nat} {item : α}
    (h : items[index]? = some item) : (items.map f).getD index default = f item := by
  simp [List.getD_eq_getElem?_getD, h]

/-- An entry added with the default value of a function changes nothing for it. -/
theorem getD_map_append (f : α → β) {default : β} {items : List α} {new : α}
    (h : f new = default) :
    (fun i => ((items ++ [new]).map f).getD i default) =
      fun i => (items.map f).getD i default := by
  funext i
  rw [List.getD_eq_getElem?_getD, List.getD_eq_getElem?_getD, List.map_append]
  exact getD_getElem?_append_singleton fun _ => h

end TacacsRs.Rust
