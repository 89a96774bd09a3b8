import TacacsRs.Rust.Outcome

/-!
# Byte-sized enumerations and bit flags

`PrimitiveEnum` is a field-less enumeration with a `u8` representation and a
derived `TryFromPrimitive`. `BitFlags declared` is a flags type over `u8` whose
declared constants cover the bits of `declared`; a value may still hold others.
-/

namespace TacacsRs.Rust

/-- An enumeration listed together with the byte of each variant. -/
class PrimitiveEnum (α : Type) where
  name : String
  discriminant : α → UInt8
  variants : List α
  mem_variants : ∀ a, a ∈ variants
  discriminant_injective : Function.Injective discriminant

namespace PrimitiveEnum

variable {α : Type} [PrimitiveEnum α]

/-- `TryFromPrimitive::try_from_primitive`. -/
def tryFromPrimitive (number : UInt8) : Outcome α :=
  match (variants : List α).find? fun a => discriminant a = number with
  | some a => .ok a
  | none => .err (.noDiscriminant (name α) number)

/-- A byte converts to the variant whose discriminant it is, and to no other. -/
@[simp] theorem tryFromPrimitive_eq_ok_iff {number : UInt8} {a : α} :
    tryFromPrimitive number = .ok a ↔ discriminant a = number := by
  unfold tryFromPrimitive
  constructor
  · intro h
    split at h
    · next b hb =>
      cases h
      simpa using List.find?_some hb
    · cases h
  · rintro rfl
    cases hb : (variants : List α).find? fun b => discriminant b = discriminant a with
    | some b =>
        have hd : discriminant b = discriminant a := by simpa using List.find?_some hb
        rw [discriminant_injective hd]
    | none =>
        have hne := List.find?_eq_none.mp hb a (mem_variants a)
        simp at hne

theorem safe_tryFromPrimitive (number : UInt8) :
    (tryFromPrimitive number : Outcome α).Safe := by
  unfold tryFromPrimitive
  split <;> trivial

end PrimitiveEnum

/-- A value of a `bitflags` type whose constants cover `declared`. -/
structure BitFlags (declared : UInt8) where
  bits : UInt8
  deriving DecidableEq, Repr

namespace BitFlags

variable {declared : UInt8}

/-- The value holds no bit outside the declared constants. -/
def IsDeclared (flags : BitFlags declared) : Prop := flags.bits &&& declared = flags.bits

instance (flags : BitFlags declared) : Decidable flags.IsDeclared :=
  inferInstanceAs (Decidable (_ = _))

/-- No flag is set. -/
def empty : BitFlags declared := ⟨0⟩

/-- `from_bits`: undeclared bits are refused. -/
def fromBits (bits : UInt8) : Option (BitFlags declared) :=
  if bits &&& declared = bits then some ⟨bits⟩ else none

/-- The flags of either. -/
def union (flags other : BitFlags declared) : BitFlags declared := ⟨flags.bits ||| other.bits⟩

/-- All flags of the other are set. -/
def contains (flags other : BitFlags declared) : Bool := flags.bits &&& other.bits == other.bits

/-- The other flags are set as well. -/
def insert (flags other : BitFlags declared) : BitFlags declared := flags.union other

/-- The other flags are cleared. -/
def remove (flags other : BitFlags declared) : BitFlags declared :=
  ⟨flags.bits &&& ~~~ other.bits⟩

/-- The other flags are set or cleared. -/
def set (flags other : BitFlags declared) (value : Bool) : BitFlags declared :=
  if value then flags.insert other else flags.remove other

/-- The accepted bytes are the bits of the declared values. -/
@[simp] theorem fromBits_eq_some_iff {bits : UInt8} {flags : BitFlags declared} :
    fromBits bits = some flags ↔ flags.IsDeclared ∧ bits = flags.bits := by
  obtain ⟨held⟩ := flags
  unfold fromBits IsDeclared
  constructor
  · intro h
    split at h
    · next hbits =>
      cases h
      exact ⟨hbits, rfl⟩
    · cases h
  · rintro ⟨hbits, rfl⟩
    simp [hbits]

/-- Bytes are equal when they have the same bits. -/
theorem byte_ext {a b : UInt8} (h : ∀ i (hi : i < 8), a.toBitVec[i] = b.toBitVec[i]) : a = b :=
  UInt8.toBitVec_inj.mp (BitVec.eq_of_getElem_eq h)

/-- Containing `other` means having every bit of it. -/
theorem contains_iff {flags other : BitFlags declared} :
    flags.contains other = true ↔
      ∀ i (hi : i < 8), other.bits.toBitVec[i] = true → flags.bits.toBitVec[i] = true := by
  simp only [contains, beq_iff_eq]
  constructor
  · intro h i hi hbit
    have hi' := congrArg (fun b : UInt8 => b.toBitVec[i]) h
    simp only [UInt8.toBitVec_and, BitVec.getElem_and, hbit, Bool.and_true] at hi'
    exact hi'
  · intro h
    apply byte_ext
    intro i hi
    simp only [UInt8.toBitVec_and, BitVec.getElem_and]
    have hbit := h i hi
    cases ho : other.bits.toBitVec[i] <;> simp_all

/-- A constant with a bit is gone after its removal. -/
theorem contains_remove {flags other : BitFlags declared} (hne : other.bits ≠ 0) :
    (flags.remove other).contains other = false := by
  rw [Bool.eq_false_iff, ne_eq, contains_iff]
  intro h
  apply hne
  apply byte_ext
  intro i hi
  cases ho : other.bits.toBitVec[i] with
  | false => simp
  | true =>
      have hbit := h i hi ho
      simp [remove, ho] at hbit

/-- Setting bits that were all set and then cleared restores the value. -/
theorem insert_remove {flags other : BitFlags declared} (h : flags.contains other = true) :
    (flags.remove other).insert other = flags := by
  rw [contains_iff] at h
  obtain ⟨held⟩ := flags
  simp only [insert, union, remove, mk.injEq]
  apply byte_ext
  intro i hi
  have hbit := h i hi
  cases ho : other.bits.toBitVec[i] <;> simp_all

theorem contains_insert (flags other : BitFlags declared) :
    (flags.insert other).contains other = true := by
  rw [contains_iff]
  intro i hi hbit
  simp [insert, union, hbit]

/-- Setting bits does not change the value outside of them. -/
theorem remove_insert (flags other : BitFlags declared) :
    (flags.insert other).remove other = flags.remove other := by
  simp only [insert, union, remove, mk.injEq]
  apply byte_ext
  intro i hi
  cases ho : other.bits.toBitVec[i] <;> simp [ho]

theorem remove_remove (flags other : BitFlags declared) :
    (flags.remove other).remove other = flags.remove other := by
  simp only [remove, mk.injEq]
  apply byte_ext
  intro i hi
  cases ho : other.bits.toBitVec[i] <;> simp [ho]

/-- The constant has exactly one bit. -/
def IsSingle (other : BitFlags declared) : Prop :=
  ∃ place, ∀ i (hi : i < 8), other.bits.toBitVec[i] = true ↔ i = place

/-- Removing a bit that is not there changes nothing. -/
theorem remove_of_not_contains {flags other : BitFlags declared} (hsingle : other.IsSingle)
    (h : flags.contains other = false) : flags.remove other = flags := by
  obtain ⟨place, hplace⟩ := hsingle
  obtain ⟨held⟩ := flags
  simp only [remove, mk.injEq]
  apply byte_ext
  intro i hi
  cases ho : other.bits.toBitVec[i] with
  | false => simp [ho]
  | true =>
      have hclear : held.toBitVec[i] = false := by
        rw [Bool.eq_false_iff]
        intro hset
        rw [Bool.eq_false_iff, ne_eq, contains_iff] at h
        apply h
        intro j hj hbit
        obtain rfl := (hplace j hj).mp hbit
        obtain rfl := (hplace i hi).mp ho
        exact hset
      simp [ho, hclear]

theorem isDeclared_iff {flags : BitFlags declared} :
    flags.IsDeclared ↔
      ∀ i (hi : i < 8), flags.bits.toBitVec[i] = true → declared.toBitVec[i] = true := by
  unfold IsDeclared
  constructor
  · intro h i hi hbit
    have hi' := congrArg (fun b : UInt8 => b.toBitVec[i]) h
    simpa [hbit] using hi'
  · intro h
    apply byte_ext
    intro i hi
    have hbit := h i hi
    cases ho : flags.bits.toBitVec[i] <;> simp_all

theorem IsDeclared.remove {flags : BitFlags declared} (h : flags.IsDeclared)
    (other : BitFlags declared) : (flags.remove other).IsDeclared := by
  rw [isDeclared_iff] at h ⊢
  intro i hi hbit
  apply h i hi
  simp [BitFlags.remove] at hbit
  exact hbit.1

end BitFlags

end TacacsRs.Rust
