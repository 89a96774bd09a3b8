import TacacsRs.Rust.Bytes
import TacacsRs.Messages.Enumerations

/-!
# The packet header

Twelve bytes: version nibbles, type, sequence number, flags, session id and the
length of the body. `fromBytes` reads them by index as the source does.
-/

namespace TacacsRs.Messages

open Rust PrimitiveEnum

/-- The bytes of a header. -/
def tacacsHeaderLength : Nat := 12

/-- The header in front of every body; `length` is that of the body. -/
structure Header where
  majorVersion : TacacsMajorVersion
  minorVersion : TacacsMinorVersion
  tacacsType : TacacsType
  seqNo : UInt8
  flags : TacacsFlags
  sessionId : UInt32
  length : UInt32
  deriving DecidableEq, Repr

namespace Header

/-- The fields are read in the order of the bytes, and the first bad one is reported. -/
def fromBytes (data : List UInt8) : Outcome Header :=
  if data.length < tacacsHeaderLength then
    .err (.msg "Data too short")
  else do
    let b0 ← Outcome.index data 0
    let majorVersion ← (tryFromPrimitive ((b0 >>> 4) &&& 0x0f)).withContext
      "Invalid major version. Conversion failed with error"
    let minorVersion ← (tryFromPrimitive (b0 &&& 0x0f)).withContext
      "Invalid minor version. Conversion failed with error"
    let b1 ← Outcome.index data 1
    let tacacsType ← (tryFromPrimitive b1).withContext
      "Invalid TACACS+ type. Conversion failed with error"
    let seqNo ← Outcome.index data 2
    let b3 ← Outcome.index data 3
    let flags ← Outcome.ofOption "Invalid flags" (BitFlags.fromBits b3)
    let b4 ← Outcome.index data 4
    let b5 ← Outcome.index data 5
    let b6 ← Outcome.index data 6
    let b7 ← Outcome.index data 7
    let sessionId := u32FromBeBytes b4 b5 b6 b7
    let b8 ← Outcome.index data 8
    let b9 ← Outcome.index data 9
    let b10 ← Outcome.index data 10
    let b11 ← Outcome.index data 11
    let length := u32FromBeBytes b8 b9 b10 b11
    pure { majorVersion, minorVersion, tacacsType, seqNo, flags, sessionId, length }

/-- Both halves of the version byte. -/
def version (header : Header) : UInt8 :=
  discriminant header.majorVersion <<< 4 ||| discriminant header.minorVersion

/-- The twelve bytes of the header, numbers in network order. -/
def toBytes (header : Header) : List UInt8 :=
  [header.version, discriminant header.tacacsType, header.seqNo, header.flags.bits] ++
    u32ToBeBytes header.sessionId ++ u32ToBeBytes header.length

@[simp] theorem length_toBytes (header : Header) : header.toBytes.length = 12 := by
  simp [toBytes]

/-- Both nibbles of a byte are accepted exactly when the byte packs the two versions. -/
theorem version_nibbles_iff {b : UInt8} {major : TacacsMajorVersion}
    {minor : TacacsMinorVersion} :
    (discriminant major = (b >>> 4) &&& 0x0f ∧ discriminant minor = b &&& 0x0f) ↔
      b = discriminant major <<< 4 ||| discriminant minor := by
  obtain ⟨b⟩ := b
  revert b
  cases major
  cases minor
  · decide +kernel
  · decide +kernel

/-- Twelve bytes at the front of `data`, by name. -/
theorem exists_twelve {data : List UInt8} (h : 12 ≤ data.length) :
    ∃ b0 b1 b2 b3 b4 b5 b6 b7 b8 b9 b10 b11 rest,
      data = [b0, b1, b2, b3, b4, b5, b6, b7, b8, b9, b10, b11] ++ rest := by
  have hlength : (data.take 12).length = 12 := by simp [h]
  match hfront : data.take 12, hlength with
  | [b0, b1, b2, b3, b4, b5, b6, b7, b8, b9, b10, b11], _ =>
      refine ⟨b0, b1, b2, b3, b4, b5, b6, b7, b8, b9, b10, b11, data.drop 12, ?_⟩
      rw [← hfront, List.take_append_drop]

/-- The decoder accepts exactly the encodings of the headers with declared flags,
whatever follows them. -/
theorem fromBytes_eq_ok_iff {data : List UInt8} {header : Header} :
    fromBytes data = .ok header ↔
      header.flags.IsDeclared ∧ ∃ rest, data = header.toBytes ++ rest := by
  by_cases hshort : data.length < 12
  · have hno : ¬ ∃ rest, data = header.toBytes ++ rest := by
      rintro ⟨rest, rfl⟩
      rw [List.length_append, length_toBytes] at hshort
      omega
    simp [fromBytes, tacacsHeaderLength, hshort, hno]
  · obtain ⟨b0, b1, b2, b3, b4, b5, b6, b7, b8, b9, b10, b11, tail, rfl⟩ :=
      exists_twelve (Nat.le_of_not_lt hshort)
    obtain ⟨major, minor, type, seqNo, flags, sessionId, length⟩ := header
    simp only [fromBytes, tacacsHeaderLength, hshort, if_false, Outcome.bind_def,
      Outcome.bind_eq_ok_iff, Outcome.withContext_eq_ok_iff, Outcome.ofOption_eq_ok_iff,
      Outcome.index_eq_ok_iff, tryFromPrimitive_eq_ok_iff, BitFlags.fromBits_eq_some_iff]
    simp only [List.cons_append, List.nil_append, List.getElem?_cons_zero,
      List.getElem?_cons_succ, Option.some.injEq, exists_eq_left', Outcome.pure_eq,
      Outcome.ok.injEq, mk.injEq, u32FromBeBytes_eq_iff, toBytes, version]
    constructor
    · rintro ⟨major', hmajor, _, hminor, _, rfl, _, ⟨hflags, rfl⟩, -, rfl, rfl, rfl, rfl,
        hsession, hlength⟩
      obtain rfl : major' = major := by cases major'; cases major; rfl
      have hversion := version_nibbles_iff.mp ⟨hmajor, hminor⟩
      refine ⟨hflags, tail, ?_⟩
      rw [← hsession, ← hlength, hversion]
      rfl
    · rintro ⟨hflags, rest, hdata⟩
      simp only [u32ToBeBytes, List.cons_append, List.nil_append, List.cons.injEq] at hdata ⊢
      obtain ⟨h0, h1, h2, h3, h4, h5, h6, h7, h8, h9, h10, h11, -⟩ := hdata
      obtain ⟨hmajor, hminor⟩ := version_nibbles_iff.mpr h0
      exact ⟨major, hmajor, minor, hminor, type, h1.symm, flags, ⟨hflags, h3⟩, trivial,
        rfl, rfl, h2, rfl, ⟨h4, h5, h6, h7, trivial⟩, ⟨h8, h9, h10, h11, trivial⟩⟩

/-- Encoding and decoding a header with declared flags is the identity. -/
theorem fromBytes_toBytes_append {header : Header} (hflags : header.flags.IsDeclared)
    (rest : List UInt8) : fromBytes (header.toBytes ++ rest) = .ok header :=
  fromBytes_eq_ok_iff.mpr ⟨hflags, rest, rfl⟩

theorem fromBytes_toBytes {header : Header} (hflags : header.flags.IsDeclared) :
    fromBytes header.toBytes = .ok header :=
  fromBytes_eq_ok_iff.mpr ⟨hflags, [], by simp⟩

/-- Reading a header never indexes behind the data. -/
theorem safe_fromBytes (data : List UInt8) : (fromBytes data).Safe := by
  unfold fromBytes
  split
  · trivial
  · next hlong =>
    simp only [tacacsHeaderLength] at hlong
    simp only [Outcome.bind_def, Outcome.pure_eq]
    repeat' first
      | exact Outcome.safe_ok _
      | exact Outcome.safe_index (by omega)
      | exact Outcome.safe_ofOption
      | exact Outcome.safe_withContext.mpr (safe_tryFromPrimitive _)
      | refine Outcome.Safe.bind ?_ fun _ _ => ?_

end Header

end TacacsRs.Messages
