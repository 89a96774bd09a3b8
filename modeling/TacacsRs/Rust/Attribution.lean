import Mathlib.Data.List.Forall2
import Mathlib.Data.List.Nodup

/-!
# Items and the parties behind them

Many parties put items on one list, or take them off it, each at most one. The
parties are listed in the order of their items.
-/

namespace TacacsRs.Rust

variable {ι α : Type}

/-- Every item has a party of its own, which is related to it by `role`. -/
structure Attributed (role : ι → α → Prop) (parties : List ι) (items : List α) : Prop where
  nodup : parties.Nodup
  matched : List.Forall₂ role parties items

variable {role role' : ι → α → Prop} {parties : List ι} {items : List α} {i : ι} {a : α}
  {place : Nat}

theorem attributed_nil : Attributed role [] [] := ⟨List.nodup_nil, .nil⟩

theorem Attributed.length_eq (h : Attributed role parties items) :
    parties.length = items.length := h.matched.length_eq

theorem Attributed.imp (h : Attributed role parties items)
    (hrole : ∀ i a, role i a → role' i a) : Attributed role' parties items :=
  ⟨h.nodup, h.matched.imp hrole⟩

/-- The next item is that of a party that has none yet. -/
theorem Attributed.add (h : Attributed role parties items) (hfresh : i ∉ parties)
    (hrole : role i a) : Attributed role (parties ++ [i]) (items ++ [a]) where
  nodup := by
    refine h.nodup.append (List.nodup_singleton i) ?_
    rw [List.disjoint_singleton]
    exact hfresh
  matched := List.rel_append h.matched (.cons hrole .nil)

/-- The first items are those of the first parties. -/
theorem Attributed.take (h : Attributed role parties items) (n : Nat) :
    Attributed role (parties.take n) (items.take n) where
  nodup := h.nodup.sublist (List.take_sublist n parties)
  matched := List.forall₂_take n h.matched

/-- When each item is the same, through `f`, as one of another kind that has the same party, through
`g`, so are all of them together. -/
theorem Attributed.exists_image {β γ : Type} {role' : ι → β → Prop} {f : α → γ} {g : β → γ}
    (h : Attributed role parties items)
    (himage : ∀ i, ∀ a ∈ items, role i a → ∃ b, role' i b ∧ f a = g b) :
    ∃ images, Attributed role' parties images ∧ items.map f = images.map g := by
  obtain ⟨hnodup, hmatched⟩ := h
  have hall : ∃ images, List.Forall₂ role' parties images ∧ items.map f = images.map g := by
    clear hnodup
    induction hmatched with
    | nil => exact ⟨[], .nil, rfl⟩
    | cons hrole hrest ih =>
        obtain ⟨b, hb, hsame⟩ := himage _ _ (List.mem_cons_self ..) hrole
        obtain ⟨images, himages, hmap⟩ :=
          ih fun i a ha => himage i a (List.mem_cons_of_mem _ ha)
        exact ⟨b :: images, .cons hb himages, by rw [List.map_cons, List.map_cons, hsame, hmap]⟩
  obtain ⟨images, himages, hmap⟩ := hall
  exact ⟨images, ⟨hnodup, himages⟩, hmap⟩

/-- The party behind an item. -/
theorem Attributed.exists_party (h : Attributed role parties items)
    (hitem : items[place]? = some a) : ∃ i, parties[place]? = some i ∧ role i a := by
  obtain ⟨hplace, rfl⟩ := List.getElem?_eq_some_iff.mp hitem
  have hparty : place < parties.length := h.length_eq ▸ hplace
  exact ⟨parties[place], List.getElem?_eq_getElem hparty, h.matched.get hparty hplace⟩

/-- The item of a party. -/
theorem Attributed.exists_item (h : Attributed role parties items)
    (hparty : i ∈ parties) :
    ∃ (place : Nat) (a : α), items[place]? = some a ∧ parties[place]? = some i ∧ role i a := by
  obtain ⟨place, hplace, rfl⟩ := List.mem_iff_getElem.mp hparty
  have hitem : place < items.length := h.length_eq ▸ hplace
  exact ⟨place, items[place], List.getElem?_eq_getElem hitem, List.getElem?_eq_getElem hplace,
    h.matched.get hplace hitem⟩

/-- A party that is alone has the only item. -/
theorem Attributed.eq_singleton (h : Attributed role parties items) (hparty : i ∈ parties)
    (halone : ∀ other ∈ parties, other = i) : ∃ a, items = [a] ∧ role i a := by
  have hparties : parties = [i] := by
    by_contra hne
    rcases (h.nodup.ne_singleton_iff i).mp hne with rfl | ⟨other, hother, hdifferent⟩
    · simp at hparty
    · exact hdifferent (halone other hother)
  obtain ⟨a, rest, hrole, hrest, rfl⟩ := List.forall₂_cons_left_iff.mp (hparties ▸ h.matched)
  obtain rfl := List.forall₂_nil_left_iff.mp hrest
  exact ⟨a, rfl, hrole⟩

end TacacsRs.Rust
