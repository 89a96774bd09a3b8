import Mathlib.Data.List.AList
import Mathlib.Logic.Function.Basic

/-!
# Maps of maps

`HashMap<K, HashMap<I, V>>`, read and written at pairs of keys. An inner map is
made for its first value and stays when the last one is removed, so only the
values at the pairs say what a map holds.
-/

namespace TacacsRs.Rust

/-- A map of maps. -/
abbrev NestedMap (κ ι α : Type) := AList fun _ : κ => AList fun _ : ι => α

namespace NestedMap

variable {κ ι α : Type} [DecidableEq κ] [DecidableEq ι]

/-- The value under both keys. -/
def get (map : NestedMap κ ι α) (key : κ × ι) : Option α :=
  (map.lookup key.1).bind fun inner => inner.lookup key.2

/-- `entry` and `or_insert` for the inner map, then `insert`. -/
def insertEntry (map : NestedMap κ ι α) (key : κ × ι) (value : α) : NestedMap κ ι α :=
  map.insert key.1 (((map.lookup key.1).getD ∅).insert key.2 value)

/-- `get_mut` for the inner map, then `remove`: the value and the map without it. -/
def removeEntry (map : NestedMap κ ι α) (key : κ × ι) : Option (α × NestedMap κ ι α) :=
  match map.lookup key.1 with
  | none => none
  | some inner =>
      match inner.lookup key.2 with
      | none => none
      | some value => some (value, map.insert key.1 (inner.erase key.2))

@[simp] theorem get_empty (key : κ × ι) : (∅ : NestedMap κ ι α).get key = none := by
  simp [get]

/-- Putting an inner map in place changes the values under its key only. -/
theorem get_insert (map : NestedMap κ ι α) (outer : κ) (inner : AList fun _ : ι => α)
    (key : κ × ι) :
    get (AList.insert outer inner map) key =
      if key.1 = outer then inner.lookup key.2 else map.get key := by
  unfold get
  split
  · next heq => rw [heq, AList.lookup_insert, Option.bind_some]
  · next hne => rw [AList.lookup_insert_ne hne]

theorem get_of_lookup {map : NestedMap κ ι α} {outer : κ} {inner : AList fun _ : ι => α}
    (h : map.lookup outer = some inner) (index : ι) :
    map.get (outer, index) = inner.lookup index := by
  rw [get, h, Option.bind_some]

theorem lookup_getD (map : NestedMap κ ι α) (outer : κ) (index : ι) :
    ((map.lookup outer).getD ∅).lookup index = map.get (outer, index) := by
  cases h : map.lookup outer with
  | none => simp [get, h]
  | some inner => exact (get_of_lookup h index).symm

theorem get_insertEntry (map : NestedMap κ ι α) (key : κ × ι) (value : α) :
    (map.insertEntry key value).get = Function.update map.get key (some value) := by
  obtain ⟨outer, index⟩ := key
  funext ⟨outer', index'⟩
  rw [insertEntry, get_insert]
  by_cases houter : outer' = outer
  · subst houter
    rw [if_pos rfl]
    by_cases hindex : index' = index
    · subst hindex
      rw [AList.lookup_insert, Function.update_self]
    · rw [AList.lookup_insert_ne hindex, lookup_getD, Function.update_of_ne (by simpa using hindex)]
  · rw [if_neg houter, Function.update_of_ne (by simp [houter])]

/-- There is nothing to remove exactly where there is no value. -/
theorem removeEntry_eq_none_iff {map : NestedMap κ ι α} {key : κ × ι} :
    map.removeEntry key = none ↔ map.get key = none := by
  unfold removeEntry get
  cases map.lookup key.1 with
  | none => simp
  | some inner => cases h : inner.lookup key.2 <;> simp [h]

/-- What is removed was there, and nothing else goes with it. -/
theorem removeEntry_eq_some {map rest : NestedMap κ ι α} {key : κ × ι} {value : α}
    (h : map.removeEntry key = some (value, rest)) :
    map.get key = some value ∧ rest.get = Function.update map.get key none := by
  obtain ⟨outer, index⟩ := key
  unfold removeEntry at h
  split at h
  · simp at h
  · next inner houter =>
    split at h
    · simp at h
    · next found hfound =>
      obtain ⟨rfl, rfl⟩ := Prod.mk.inj (Option.some.inj h)
      refine ⟨(get_of_lookup houter index).trans hfound, ?_⟩
      funext ⟨outer', index'⟩
      rw [get_insert]
      by_cases hsame : outer' = outer
      · subst hsame
        rw [if_pos rfl]
        by_cases hindex : index' = index
        · subst hindex
          rw [AList.lookup_erase, Function.update_self]
        · rw [AList.lookup_erase_ne hindex, Function.update_of_ne (by simpa using hindex)]
          exact (get_of_lookup houter index').symm
      · rw [if_neg hsame, Function.update_of_ne (by simp [hsame])]

end NestedMap

end TacacsRs.Rust
