import Mathlib.Data.List.Forall2
import TacacsRs.Rust.Bytes

/-!
# Decoders over a cursor

A cursor is represented by the bytes it has not read yet. A decoder is exact
for a set of values and an encoding when it accepts precisely the inputs that
start with the encoding of such a value, and leaves the bytes behind it.
-/

namespace TacacsRs.Rust

/-- A computation on a cursor, given by the bytes from its position on. -/
def Decoder (α : Type) := List UInt8 → Outcome (α × List UInt8)

namespace Decoder

variable {α β γ : Type}

instance : Monad Decoder where
  pure a := fun cursor => .ok (a, cursor)
  bind d k := fun cursor => (d cursor).bind fun p => k p.1 p.2

/-- A fallible conversion that does not touch the cursor. -/
def lift (x : Outcome α) : Decoder α := fun cursor => x.bind fun a => .ok (a, cursor)

/-- An error of the decoder gets a text. -/
def withContext (text : String) (d : Decoder α) : Decoder α :=
  fun cursor => (d cursor).withContext text

/-- The value decoded from the front of `data`. -/
def value (d : Decoder α) (data : List UInt8) : Outcome α :=
  (d data).bind fun p => .ok p.1

/-- `ReadBytesExt::read_u8`. -/
def readU8 : Decoder UInt8
  | [] => .err .unexpectedEof
  | b :: cursor => .ok (b, cursor)

/-- `ReadBytesExt::read_u16::<BigEndian>`. -/
def readU16 : Decoder UInt16
  | a :: b :: cursor => .ok (u16FromBeBytes a b, cursor)
  | _ => .err .unexpectedEof

/-- `Read::read_exact` into a buffer of `n` bytes. -/
def readExact (n : Nat) : Decoder (List UInt8) := fun cursor =>
  if cursor.length < n then .err .unexpectedEof else .ok (cursor.take n, cursor.drop n)

/-- The number of bytes between the position and the end of the buffer. -/
def remaining : Decoder Nat := fun cursor => .ok (cursor.length, cursor)

/-- A `for` loop over `items` that pushes the value decoded in each round. -/
def forEach (items : List α) (d : α → Decoder β) : Decoder (List β) :=
  match items with
  | [] => pure []
  | a :: items => do
      let b ← d a
      let bs ← forEach items d
      pure (b :: bs)

/-- `d` accepts exactly the encodings of the values in `dom` and what may follow them. -/
def Exact (d : Decoder α) (dom : α → Prop) (enc : α → List UInt8) : Prop :=
  ∀ cursor a rest, d cursor = .ok (a, rest) ↔ dom a ∧ cursor = enc a ++ rest

/-- `d` panics on no cursor. -/
def Total (d : Decoder α) : Prop := ∀ cursor, (d cursor).Safe

@[simp] theorem pure_apply (a : α) (cursor : List UInt8) :
    (pure a : Decoder α) cursor = .ok (a, cursor) := rfl

@[simp] theorem bind_apply (d : Decoder α) (k : α → Decoder β) (cursor : List UInt8) :
    (d >>= k) cursor = (d cursor).bind fun p => k p.1 p.2 := rfl

/-- A decoder that succeeds hands the rest of the bytes on. -/
theorem bind_of_ok {d : Decoder α} {cursor rest : List UInt8} {a : α}
    (h : d cursor = .ok (a, rest)) (k : α → Decoder β) : (d >>= k) cursor = k a rest := by
  rw [bind_apply, h, Outcome.ok_bind]

/-- A sequence of decoders succeeds when the second starts where the first ended. -/
theorem bind_eq_ok_iff {d : Decoder α} {k : α → Decoder β} {cursor rest : List UInt8} {b : β} :
    (d >>= k) cursor = .ok (b, rest) ↔
      ∃ a mid, d cursor = .ok (a, mid) ∧ k a mid = .ok (b, rest) := by
  rw [bind_apply, Outcome.bind_eq_ok_iff]
  simp only [Prod.exists]

@[simp] theorem withContext_eq_ok_iff {text : String} {d : Decoder α}
    {cursor : List UInt8} {p : α × List UInt8} :
    d.withContext text cursor = .ok p ↔ d cursor = .ok p := by
  simp [withContext]

@[simp] theorem lift_eq_ok_iff {x : Outcome α} {cursor rest : List UInt8} {a : α} :
    lift x cursor = .ok (a, rest) ↔ x = .ok a ∧ cursor = rest := by
  simp [lift, Outcome.bind_eq_ok_iff]

@[simp] theorem remaining_eq_ok_iff {cursor rest : List UInt8} {n : Nat} :
    remaining cursor = .ok (n, rest) ↔ cursor.length = n ∧ cursor = rest := by
  simp [remaining]

@[simp] theorem readU8_eq_ok_iff {cursor rest : List UInt8} {b : UInt8} :
    readU8 cursor = .ok (b, rest) ↔ cursor = b :: rest := by
  cases cursor <;> simp [readU8]

@[simp] theorem readU16_eq_ok_iff {cursor rest : List UInt8} {n : UInt16} :
    readU16 cursor = .ok (n, rest) ↔
      ∃ a b, cursor = a :: b :: rest ∧ u16FromBeBytes a b = n := by
  match cursor with
  | [] => simp [readU16]
  | [_] => simp [readU16]
  | a :: b :: tail =>
      simp only [readU16, Outcome.ok.injEq, Prod.mk.injEq, List.cons.injEq]
      grind

/-- Reading `n` bytes splits the cursor after them. -/
theorem readExact_eq_ok_iff {n : Nat} {cursor rest buffer : List UInt8} :
    readExact n cursor = .ok (buffer, rest) ↔ buffer.length = n ∧ cursor = buffer ++ rest := by
  unfold readExact
  constructor
  · intro h
    split at h
    · cases h
    · simp only [Outcome.ok.injEq, Prod.mk.injEq] at h
      obtain ⟨rfl, rfl⟩ := h
      exact ⟨by simp; omega, (List.take_append_drop n cursor).symm⟩
  · rintro ⟨rfl, rfl⟩
    simp

/-- The first round of a loop, in front of the others and of what follows the loop. -/
theorem forEach_cons_bind (a : α) (items : List α) (d : α → Decoder β)
    (k : List β → Decoder γ) :
    (forEach (a :: items) d >>= k) =
      d a >>= fun b => forEach items d >>= fun bs => k (b :: bs) := by
  funext cursor
  simp only [forEach, bind_apply, pure_apply, Outcome.bind_assoc, Outcome.ok_bind]

/-- A loop of exact decoders is exact: one value for each item, encoded one after another. -/
theorem forEach_exact {items : List α} {d : α → Decoder β} {dom : α → β → Prop}
    {enc : β → List UInt8} (hd : ∀ a, (d a).Exact (dom a) enc) :
    (forEach items d).Exact (List.Forall₂ dom items) fun bs => bs.flatMap enc := by
  induction items with
  | nil =>
      intro cursor bs rest
      simp only [forEach, pure_apply, Outcome.ok.injEq, Prod.mk.injEq, List.forall₂_nil_left_iff]
      constructor
      · rintro ⟨rfl, rfl⟩
        exact ⟨rfl, rfl⟩
      · rintro ⟨rfl, rfl⟩
        exact ⟨rfl, rfl⟩
  | cons a items ih =>
      intro cursor bs rest
      simp only [forEach, bind_eq_ok_iff, hd a _ _ _, ih _ _ _, pure_apply, Outcome.ok.injEq,
        Prod.mk.injEq, List.forall₂_cons_left_iff]
      constructor
      · rintro ⟨b, mid, ⟨hb, rfl⟩, bs', mid', ⟨hbs, rfl⟩, rfl, rfl⟩
        exact ⟨⟨b, bs', hb, hbs, rfl⟩, by simp⟩
      · rintro ⟨⟨b, bs', hb, hbs, rfl⟩, rfl⟩
        exact ⟨b, bs'.flatMap enc ++ rest, ⟨hb, by simp⟩, bs', rest, ⟨hbs, rfl⟩, rfl, rfl⟩

/-- Running a decoder for its value asks for some encoding at the front of the data. -/
theorem value_eq_ok_iff {d : Decoder α} {data : List UInt8} {a : α} :
    d.value data = .ok a ↔ ∃ rest, d data = .ok (a, rest) := by
  unfold value
  rw [Outcome.bind_eq_ok_iff]
  constructor
  · rintro ⟨⟨a', rest⟩, hd, ha⟩
    cases ha
    exact ⟨rest, hd⟩
  · rintro ⟨rest, hd⟩
    exact ⟨(a, rest), hd, rfl⟩

/-! Decoders that never panic. -/

theorem Total.pure (a : α) : (Pure.pure a : Decoder α).Total := fun _ => trivial

theorem Total.bind {d : Decoder α} {k : α → Decoder β} (hd : d.Total)
    (hk : ∀ a, (k a).Total) : (d >>= k).Total :=
  fun cursor => (hd cursor).bind fun p _ => hk p.1 p.2

theorem Total.withContext {text : String} {d : Decoder α} (hd : d.Total) :
    (d.withContext text).Total :=
  fun cursor => Outcome.safe_withContext.mpr (hd cursor)

theorem Total.lift {x : Outcome α} (hx : x.Safe) : (Decoder.lift x).Total :=
  fun _ => hx.bind fun _ _ => trivial

theorem readU8_total : readU8.Total := by
  intro cursor
  cases cursor <;> trivial

theorem readU16_total : readU16.Total := by
  intro cursor
  match cursor with
  | [] => trivial
  | [_] => trivial
  | _ :: _ :: _ => trivial

theorem readExact_total (n : Nat) : (readExact n).Total := by
  intro cursor
  unfold readExact
  split <;> trivial

theorem remaining_total : remaining.Total := fun _ => trivial

theorem forEach_total {items : List α} {d : α → Decoder β} (hd : ∀ a, (d a).Total) :
    (forEach items d).Total := by
  induction items with
  | nil => exact Total.pure []
  | cons a items ih => exact (hd a).bind fun b => ih.bind fun bs => Total.pure (b :: bs)

theorem Total.value {d : Decoder α} (hd : d.Total) (data : List UInt8) :
    (d.value data).Safe :=
  (hd data).bind fun _ _ => trivial

end Decoder

end TacacsRs.Rust
