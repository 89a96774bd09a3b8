import Mathlib.Data.List.Basic
import Mathlib.Logic.Function.Basic

/-!
# Ledgers over a table

A table holds at most one entry under a key. What was put in and taken out is
kept beside it as lists, the latest last; the table is balanced when under every
key nothing has come out twice and nothing is lost.
-/

namespace TacacsRs.Rust

variable {κ α : Type} [DecidableEq κ] (key : α → κ)

/-- The entries under a key, in their order. -/
def entriesAt (items : List α) (k : κ) : List α := items.filter fun a => key a = k

/-- Under every key, what was added is what was taken, in the same order, and then what is still
held. -/
def Balanced (added taken : List α) (held : κ → Option α) : Prop :=
  ∀ k, entriesAt key added k = entriesAt key taken k ++ (held k).toList

/-- Under every key the entry that was put there last is held. -/
def HoldsLast (items : List α) (held : κ → Option α) : Prop :=
  ∀ k, held k = (entriesAt key items k).getLast?

variable {key} {items added taken : List α} {held : κ → Option α} {a : α} {k : κ}

theorem entriesAt_cons_self (h : key a = k) :
    entriesAt key (a :: items) k = a :: entriesAt key items k := by
  simp [entriesAt, h]

theorem entriesAt_cons_of_ne (h : key a ≠ k) :
    entriesAt key (a :: items) k = entriesAt key items k := by
  simp [entriesAt, h]

theorem entriesAt_concat_self (h : key a = k) :
    entriesAt key (items ++ [a]) k = entriesAt key items k ++ [a] := by
  simp [entriesAt, h]

theorem entriesAt_concat_of_ne (h : key a ≠ k) :
    entriesAt key (items ++ [a]) k = entriesAt key items k := by
  simp [entriesAt, h]

theorem balanced_nil : Balanced key [] [] fun _ => none := by
  intro k
  simp [entriesAt]

/-- What is held under a key was added under it. -/
theorem Balanced.key_eq (h : Balanced key added taken held) (hheld : held k = some a) :
    key a = k := by
  have hmem : a ∈ entriesAt key added k := by
    rw [h k, hheld]
    simp
  simpa [entriesAt] using (List.mem_filter.mp hmem).2

/-- An entry can be added where none is held. -/
theorem Balanced.add (h : Balanced key added taken held) (hfree : held (key a) = none) :
    Balanced key (added ++ [a]) taken (Function.update held (key a) (some a)) := by
  intro k
  by_cases hk : key a = k
  · subst hk
    rw [entriesAt_concat_self rfl, h (key a), hfree, Function.update_self]
    simp
  · rw [entriesAt_concat_of_ne hk, h k, Function.update_of_ne (Ne.symm hk)]

/-- The entry that is held under a key is the next one to be taken there. -/
theorem Balanced.take (h : Balanced key added taken held) (hheld : held k = some a) :
    Balanced key added (taken ++ [a]) (Function.update held k none) := by
  have hkey := h.key_eq hheld
  intro other
  by_cases hother : k = other
  · subst hother
    rw [entriesAt_concat_self hkey, h k, hheld, Function.update_self]
    simp
  · rw [entriesAt_concat_of_ne (hkey ▸ hother), h other, Function.update_of_ne (Ne.symm hother)]

theorem holdsLast_nil : HoldsLast key [] fun _ => none := by
  intro k
  simp [entriesAt]

theorem HoldsLast.put (h : HoldsLast key items held) (a : α) :
    HoldsLast key (items ++ [a]) (Function.update held (key a) (some a)) := by
  intro k
  by_cases hk : key a = k
  · subst hk
    rw [entriesAt_concat_self rfl, Function.update_self]
    simp
  · rw [entriesAt_concat_of_ne hk, Function.update_of_ne (Ne.symm hk)]
    exact h k

end TacacsRs.Rust
