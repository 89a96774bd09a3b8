import Mathlib.Algebra.GroupWithZero.Nat
import Mathlib.Data.List.Basic

/-!
# Outcomes of Rust computations

A computation returns a value, returns an error, or panics. Errors keep the
texts that `anyhow` attaches to them, outermost first, and stop at the kind of
the library error that caused them.
-/

namespace TacacsRs.Rust

universe u v

/-- An error value as the source builds and wraps it. -/
inductive Error where
  | msg (text : String)
  | unexpectedEof
  | noDiscriminant (enumeration : String) (number : UInt8)
  | invalidUtf8
  | context (text : String) (source : Error)
  deriving DecidableEq, Repr

/-- The text of an error without its causes, as `to_string` prints it. -/
def Error.toString : Error → String
  | .msg text => text
  | .unexpectedEof => "failed to fill whole buffer"
  | .noDiscriminant enumeration number =>
      "No discriminant in enum `" ++ enumeration ++ "` matches the value `" ++
        number.toNat.repr ++ "`"
  | .invalidUtf8 => "invalid utf-8 sequence"
  | .context text _ => text

/-- What a Rust function that can fail or panic hands back. -/
inductive Outcome (α : Type u) where
  | ok (value : α)
  | err (error : Error)
  | panic
  deriving DecidableEq, Repr

namespace Outcome

variable {α : Type u} {β : Type v}

/-- The `?` operator: errors and panics leave the function. -/
def bind : Outcome α → (α → Outcome β) → Outcome β
  | .ok a, f => f a
  | .err e, _ => .err e
  | .panic, _ => .panic

instance : Monad Outcome where
  pure := .ok
  bind := Outcome.bind

/-- `Context::with_context` on a `Result`. -/
def withContext (text : String) : Outcome α → Outcome α
  | .err e => .err (.context text e)
  | x => x

/-- `Option::with_context`, and `ok_or` with the message as its error. -/
def ofOption (text : String) : Option α → Outcome α
  | some a => .ok a
  | none => .err (.msg text)

/-- `Result::unwrap`. -/
def unwrap : Outcome α → Outcome α
  | .err _ => .panic
  | x => x

/-- `data[i]`, which panics when the index is out of bounds. -/
def index (data : List α) (i : Nat) : Outcome α :=
  match data[i]? with
  | some a => .ok a
  | none => .panic

/-- `a + b` on `u8`: an overflow panics in a build that checks for it, and wraps in one that does
not. -/
def addU8 (overflowChecks : Bool) (a b : UInt8) : Outcome UInt8 :=
  if overflowChecks && decide (2 ^ 8 ≤ a.toNat + b.toNat) then .panic else .ok (a + b)

/-- The computation does not panic. -/
def Safe : Outcome α → Prop
  | .panic => False
  | _ => True

@[simp] theorem pure_eq (a : α) : (pure a : Outcome α) = .ok a := rfl

@[simp] theorem ok_bind (a : α) (f : α → Outcome β) : (Outcome.ok a).bind f = f a := rfl

@[simp] theorem err_bind (e : Error) (f : α → Outcome β) :
    (Outcome.err e).bind f = .err e := rfl

@[simp] theorem panic_bind (f : α → Outcome β) :
    (Outcome.panic : Outcome α).bind f = .panic := rfl

@[simp] theorem bind_def {α β : Type u} (x : Outcome α) (f : α → Outcome β) :
    x >>= f = x.bind f := rfl

/-- A sequence of computations succeeds exactly when each of them does. -/
theorem bind_eq_ok_iff {x : Outcome α} {f : α → Outcome β} {b : β} :
    x.bind f = .ok b ↔ ∃ a, x = .ok a ∧ f a = .ok b := by
  cases x with
  | ok a => simp
  | err e => simp
  | panic => simp

theorem bind_assoc {γ : Type v} (x : Outcome α) (f : α → Outcome β) (g : β → Outcome γ) :
    (x.bind f).bind g = x.bind fun a => (f a).bind g := by
  cases x <;> rfl

@[simp] theorem withContext_eq_ok_iff {text : String} {x : Outcome α} {a : α} :
    x.withContext text = .ok a ↔ x = .ok a := by
  cases x <;> simp [withContext]

@[simp] theorem ofOption_eq_ok_iff {text : String} {x : Option α} {a : α} :
    ofOption text x = .ok a ↔ x = some a := by
  cases x <;> simp [ofOption]

@[simp] theorem unwrap_eq_ok_iff {x : Outcome α} {a : α} :
    x.unwrap = .ok a ↔ x = .ok a := by
  cases x <;> simp [unwrap]

@[simp] theorem index_eq_ok_iff {data : List α} {i : Nat} {a : α} :
    index data i = .ok a ↔ data[i]? = some a := by
  unfold index
  cases data[i]? <;> simp

@[simp] theorem safe_ok (a : α) : (Outcome.ok a).Safe := trivial

@[simp] theorem safe_err (e : Error) : (Outcome.err e : Outcome α).Safe := trivial

@[simp] theorem not_safe_panic : ¬ (Outcome.panic : Outcome α).Safe := id

theorem safe_iff {x : Outcome α} : x.Safe ↔ x ≠ .panic := by
  cases x <;> simp [Safe]

theorem safe_iff_ok_or_err {x : Outcome α} :
    x.Safe ↔ (∃ a, x = .ok a) ∨ ∃ e, x = .err e := by
  cases x <;> simp [Safe]

/-- A sequence is safe when its first part is and every continuation it reaches is. -/
theorem Safe.bind {x : Outcome α} {f : α → Outcome β} (hx : x.Safe)
    (hf : ∀ a, x = .ok a → (f a).Safe) : (x.bind f).Safe := by
  cases x with
  | ok a => exact hf a rfl
  | err e => trivial
  | panic => exact hx.elim

/-- A sequence panics exactly where a part of it that it reaches does. -/
theorem bind_eq_panic_iff {x : Outcome α} {f : α → Outcome β} :
    x.bind f = .panic ↔ x = .panic ∨ ∃ a, x = .ok a ∧ f a = .panic := by
  cases x with
  | ok a => simp
  | err e => simp
  | panic => simp

@[simp] theorem safe_withContext {text : String} {x : Outcome α} :
    (x.withContext text).Safe ↔ x.Safe := by
  cases x <;> simp [withContext]

@[simp] theorem safe_ofOption {text : String} {x : Option α} : (ofOption text x).Safe := by
  cases x <;> simp [ofOption]

/-- Indexing inside the bounds does not panic. -/
theorem safe_index {data : List α} {i : Nat} (hi : i < data.length) : (index data i).Safe := by
  simp [index, List.getElem?_eq_getElem hi]

theorem addU8_ne_err (overflowChecks : Bool) (a b : UInt8) (error : Error) :
    addU8 overflowChecks a b ≠ .err error := by
  unfold addU8
  split <;> simp

/-- Where the addition does not panic, its sum is the wrapped one. -/
theorem eq_add_of_addU8 {overflowChecks : Bool} {a b sum : UInt8}
    (h : addU8 overflowChecks a b = .ok sum) : sum = a + b := by
  unfold addU8 at h
  split at h
  · simp at h
  · exact (Outcome.ok.inj h).symm

/-- A sum that fits is the same in both builds. -/
theorem addU8_of_lt (overflowChecks : Bool) {a b : UInt8} (h : a.toNat + b.toNat < 2 ^ 8) :
    addU8 overflowChecks a b = .ok (a + b) := by
  rw [addU8, decide_eq_false (Nat.not_le.mpr h), Bool.and_false]
  rfl

/-- Every number below 255 has a next one. -/
theorem addU8_one_of_lt (overflowChecks : Bool) {a : UInt8} (h : a.toNat < 255) :
    addU8 overflowChecks a 1 = .ok (a + 1) ∧ (a + 1).toNat = a.toNat + 1 := by
  have hfits : a.toNat + (1 : UInt8).toNat < 2 ^ 8 := Nat.succ_lt_succ h
  refine ⟨addU8_of_lt overflowChecks hfits, ?_⟩
  rw [UInt8.toNat_add]
  exact Nat.mod_eq_of_lt hfits

/-- A loop that adds up `f` of the entries at `start + i` and the indices behind it. -/
theorem foldlM_index_of_le {α : Type} {data : List α} (f : α → Nat) (start i n total : Nat)
    (h : start + i + n ≤ data.length) :
    (List.range' i n).foldlM (fun total i => do
      let entry ← index data (start + i)
      pure (total + f entry)) total =
        .ok (total + (((data.drop (start + i)).take n).map f).sum) := by
  induction n generalizing i total with
  | zero => simp
  | succ n ih =>
      have hi : start + i < data.length := by omega
      have htail := ih (i + 1) (total + f data[start + i]) (by omega)
      rw [List.range'_succ, List.foldlM_cons, List.drop_eq_getElem_cons hi, List.take_succ_cons,
        List.map_cons, List.sum_cons, ← Nat.add_assoc]
      simp only [index, List.getElem?_eq_getElem hi, bind_def, ok_bind, pure_eq] at htail ⊢
      exact htail

/-- The loop panics when there are fewer entries than it reads. -/
theorem foldlM_index_of_lt {α : Type} {data : List α} (f : α → Nat) (start i n total : Nat)
    (hi : start + i ≤ data.length) (h : data.length < start + i + n) :
    (List.range' i n).foldlM (fun total i => do
      let entry ← index data (start + i)
      pure (total + f entry)) total = .panic := by
  induction n generalizing i total with
  | zero => omega
  | succ n ih =>
      rw [List.range'_succ, List.foldlM_cons]
      by_cases hlast : start + i < data.length
      · have htail := ih (i + 1) (total + f data[start + i]) (by omega) (by omega)
        simp only [index, List.getElem?_eq_getElem hlast, bind_def, ok_bind, pure_eq] at htail ⊢
        exact htail
      · simp [index, List.getElem?_eq_none (Nat.le_of_not_lt hlast)]

end Outcome

end TacacsRs.Rust
