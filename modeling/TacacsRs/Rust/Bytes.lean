import Mathlib.Algebra.GroupWithZero.Nat
import TacacsRs.Rust.Outcome

/-!
# Big-endian integers and UTF-8 strings as bytes

Lengths of slices are natural numbers, `len as u8` is `UInt8.ofNat len`. A Rust
`String` is a Lean `String`: both are the byte sequences that are valid UTF-8.
-/

namespace TacacsRs.Rust

/-- `u16::from_be_bytes`. -/
def u16FromBeBytes (a b : UInt8) : UInt16 :=
  UInt16.ofNat (a.toNat * 2 ^ 8 + b.toNat)

/-- `u32::to_be_bytes`. -/
def u32ToBeBytes (x : UInt32) : List UInt8 :=
  [UInt8.ofNat (x.toNat / 2 ^ 24), UInt8.ofNat (x.toNat / 2 ^ 16),
    UInt8.ofNat (x.toNat / 2 ^ 8), UInt8.ofNat x.toNat]

/-- `u32::from_be_bytes`. -/
def u32FromBeBytes (a b c d : UInt8) : UInt32 :=
  UInt32.ofNat (a.toNat * 2 ^ 24 + b.toNat * 2 ^ 16 + c.toNat * 2 ^ 8 + d.toNat)

@[simp] theorem length_u32ToBeBytes (x : UInt32) : (u32ToBeBytes x).length = 4 := rfl

theorem u16FromBeBytes_toNat (a b : UInt8) :
    (u16FromBeBytes a b).toNat = a.toNat * 2 ^ 8 + b.toNat := by
  have ha := a.toNat_lt
  have hb := b.toNat_lt
  simp only [u16FromBeBytes, UInt16.toNat_ofNat']
  omega

/-- Two bytes spell a 16-bit number exactly when they are its high and its low byte. -/
theorem u16FromBeBytes_toNat_eq_iff {a b : UInt8} {n : Nat} :
    (u16FromBeBytes a b).toNat = n ↔
      n < 2 ^ 16 ∧ a = UInt8.ofNat (n / 2 ^ 8) ∧ b = UInt8.ofNat n := by
  have ha := a.toNat_lt
  have hb := b.toNat_lt
  rw [u16FromBeBytes_toNat, ← UInt8.toNat_inj, ← UInt8.toNat_inj]
  simp only [UInt8.toNat_ofNat']
  omega

/-- Four bytes spell a 32-bit number exactly when they are its big-endian bytes. -/
theorem u32FromBeBytes_eq_iff {a b c d : UInt8} {x : UInt32} :
    u32FromBeBytes a b c d = x ↔ [a, b, c, d] = u32ToBeBytes x := by
  have ha := a.toNat_lt
  have hb := b.toNat_lt
  have hc := c.toNat_lt
  have hd := d.toNat_lt
  have hx := x.toNat_lt
  simp only [u32FromBeBytes, u32ToBeBytes, List.cons.injEq, and_true,
    ← UInt32.toNat_inj, ← UInt8.toNat_inj, UInt32.toNat_ofNat', UInt8.toNat_ofNat']
  omega

/-- `String::as_bytes`. -/
def asBytes (s : String) : List UInt8 := s.toByteArray.data.toList

/-- `String::len`: the number of bytes, not of characters. -/
def len (s : String) : Nat := (asBytes s).length

theorem length_asBytes (s : String) : (asBytes s).length = len s := rfl

/-- `String::from_utf8`. -/
def fromUtf8 (bytes : List UInt8) : Outcome String :=
  match String.fromUTF8? bytes.toByteArray with
  | some s => .ok s
  | none => .err .invalidUtf8

theorem toByteArray_asBytes (s : String) : (asBytes s).toByteArray = s.toByteArray := by
  apply ByteArray.ext
  simp [asBytes]

@[simp] theorem asBytes_append (s t : String) : asBytes (s ++ t) = asBytes s ++ asBytes t := by
  simp [asBytes, String.toByteArray_append]

@[simp] theorem len_append (s t : String) : len (s ++ t) = len s + len t := by
  simp [len]

/-- Reading bytes as UTF-8 succeeds exactly on the bytes of a string. -/
theorem fromUtf8_eq_ok_iff {bytes : List UInt8} {s : String} :
    fromUtf8 bytes = .ok s ↔ asBytes s = bytes := by
  unfold fromUtf8 String.fromUTF8?
  constructor
  · intro h
    split at h
    · next t ht =>
      split at ht
      · cases h
        cases ht
        simp [asBytes, String.fromUTF8]
      · cases ht
    · cases h
  · intro h
    subst h
    have hvalid : (asBytes s).toByteArray.IsValidUTF8 := by
      rw [toByteArray_asBytes]
      exact s.isValidUTF8
    simp only [dif_pos hvalid, String.fromUTF8, Outcome.ok.injEq]
    exact String.toByteArray_inj.mp (toByteArray_asBytes s)

/-- The bytes are valid UTF-8. -/
def ValidUtf8 (bytes : List UInt8) : Prop := bytes.toByteArray.IsValidUTF8

instance (bytes : List UInt8) : Decidable (ValidUtf8 bytes) :=
  inferInstanceAs (Decidable bytes.toByteArray.IsValidUTF8)

theorem validUtf8_iff {bytes : List UInt8} : ValidUtf8 bytes ↔ ∃ s, asBytes s = bytes := by
  constructor
  · intro h
    exact ⟨String.fromUTF8 _ h, by simp [asBytes, String.fromUTF8]⟩
  · rintro ⟨s, rfl⟩
    unfold ValidUtf8
    rw [toByteArray_asBytes]
    exact s.isValidUTF8

theorem safe_fromUtf8 (bytes : List UInt8) : (fromUtf8 bytes).Safe := by
  unfold fromUtf8
  split <;> trivial

end TacacsRs.Rust
