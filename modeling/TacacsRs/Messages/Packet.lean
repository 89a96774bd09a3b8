import TacacsRs.Messages.Obfuscation

/-!
# Packets

A packet is a header and a body. `new` refuses a body that is shorter than the
header declares, `fromBytes` takes whatever follows the header. The conversions
may panic: `as...` through `unwrap`, `to...` through the index into the pad.
-/

namespace TacacsRs.Messages

open Rust

/-- A header and a body, of any length. -/
structure Packet where
  header : Header
  body : List UInt8
  deriving DecidableEq, Repr

namespace Packet

open TacacsFlags

/-- A body shorter than the header declares is refused; a longer one is not. -/
def new (header : Header) (body : List UInt8) : Outcome Packet :=
  if body.length < header.length.toNat then
    .err (.msg ("Invalid body length. Expected: " ++ header.length.toNat.repr ++
      ", Actual: " ++ body.length.repr))
  else
    .ok { header, body }

/-- The header and the body one after the other. -/
def toBytes (packet : Packet) : List UInt8 := packet.header.toBytes ++ packet.body

/-- All that follows the header is the body, whatever length the header declares. -/
def fromBytes (data : List UInt8) : Outcome Packet := do
  let header ← Header.fromBytes data
  let body := data.drop tacacsHeaderLength
  pure { header, body }

section Conversions

variable (md5 : List UInt8 → Digest)

/-- A copy with its body hidden, unless the body is hidden already. -/
def asObfuscated (packet : Packet) (obfuscationKey : List UInt8) : Outcome (Option Packet) :=
  let isObfuscated := !packet.header.flags.contains tacPlusUnencryptedFlag
  if isObfuscated then
    pure none
  else do
    let clonedHeader :=
      { packet.header with flags := packet.header.flags.remove tacPlusUnencryptedFlag }
    let obfuscatedBody := convert md5 packet.header packet.body obfuscationKey
    let obfuscated ← (new clonedHeader obfuscatedBody).unwrap
    pure (some obfuscated)

/-- A copy with its body in the clear, unless the body is in the clear already. -/
def asDeobfuscated (packet : Packet) (obfuscationKey : List UInt8) : Outcome (Option Packet) :=
  let isDeobfuscated := packet.header.flags.contains tacPlusUnencryptedFlag
  if isDeobfuscated then
    pure none
  else do
    let clonedHeader :=
      { packet.header with flags := packet.header.flags.insert tacPlusUnencryptedFlag }
    let deobfuscatedBody := convert md5 packet.header packet.body obfuscationKey
    let deobfuscated ← (new clonedHeader deobfuscatedBody).unwrap
    pure (some deobfuscated)

/-- The packet itself with its body hidden. -/
def toObfuscated (packet : Packet) (obfuscationKey : List UInt8) : Outcome Packet :=
  let isObfuscated := !packet.header.flags.contains tacPlusUnencryptedFlag
  match isObfuscated with
  | true => pure packet
  | false => do
      let header :=
        { packet.header with flags := packet.header.flags.set tacPlusUnencryptedFlag false }
      let body ← convertInplace md5 header packet.body obfuscationKey
      pure { header, body }

/-- The packet itself with its body in the clear. -/
def toDeobfuscated (packet : Packet) (obfuscationKey : List UInt8) : Outcome Packet :=
  let isDeobfuscated := packet.header.flags.contains tacPlusUnencryptedFlag
  match isDeobfuscated with
  | true => pure packet
  | false => do
      let header :=
        { packet.header with flags := packet.header.flags.set tacPlusUnencryptedFlag true }
      let body ← convertInplace md5 header packet.body obfuscationKey
      pure { header, body }

end Conversions

theorem new_eq_ok_iff {header : Header} {body : List UInt8} {packet : Packet} :
    new header body = .ok packet ↔
      header.length.toNat ≤ body.length ∧ packet = ⟨header, body⟩ := by
  unfold new
  split
  · next hshort =>
    simp only [reduceCtorEq, false_iff, not_and]
    omega
  · next hlong =>
    simp only [Outcome.ok.injEq, eq_comm (a := packet), iff_and_self]
    omega

/-- Reading a packet inverts writing one with declared flags, on every input. -/
theorem fromBytes_eq_ok_iff {data : List UInt8} {packet : Packet} :
    fromBytes data = .ok packet ↔
      packet.header.flags.IsDeclared ∧ data = packet.toBytes := by
  obtain ⟨header, body⟩ := packet
  simp only [fromBytes, toBytes, tacacsHeaderLength, Outcome.bind_def, Outcome.bind_eq_ok_iff,
    Header.fromBytes_eq_ok_iff, Outcome.pure_eq, Outcome.ok.injEq, mk.injEq]
  constructor
  · rintro ⟨parsed, ⟨hflags, rest, rfl⟩, rfl, rfl⟩
    have hdrop : (parsed.toBytes ++ rest).drop 12 = rest :=
      List.drop_left' (Header.length_toBytes parsed)
    exact ⟨hflags, by rw [hdrop]⟩
  · rintro ⟨hflags, rfl⟩
    exact ⟨header, ⟨hflags, body, rfl⟩, rfl, List.drop_left' (Header.length_toBytes header)⟩

@[simp] theorem length_toBytes (packet : Packet) :
    packet.toBytes.length = 12 + packet.body.length := by
  simp [toBytes]

/-- Reading a packet panics no more than reading its header: the body starts where it ends. -/
theorem safe_fromBytes (data : List UInt8) : (fromBytes data).Safe :=
  Outcome.Safe.bind (Header.safe_fromBytes data) fun _ _ => trivial

/-- Headers and packets are decoded from exactly their own encodings, a header whatever follows
it; every other input is an error. -/
theorem frames_decode_exactly (data : List UInt8) :
    (∀ header, Header.fromBytes data = .ok header ↔
        header.flags.IsDeclared ∧ 12 ≤ data.length ∧ data.take 12 = header.toBytes) ∧
      (∀ packet, fromBytes data = .ok packet ↔
        packet.header.flags.IsDeclared ∧ data = packet.toBytes) ∧
      ((∃ header, Header.fromBytes data = .ok header) ∨
        ∃ error, Header.fromBytes data = .err error) ∧
      ((∃ packet, fromBytes data = .ok packet) ∨ ∃ error, fromBytes data = .err error) := by
  refine ⟨fun header => ?_, fun packet => fromBytes_eq_ok_iff, ?_, ?_⟩
  · rw [Header.fromBytes_eq_ok_iff]
    refine and_congr_right fun _ => ⟨?_, ?_⟩
    · rintro ⟨rest, rfl⟩
      have hlength := header.length_toBytes
      exact ⟨by simp [hlength], List.take_left' hlength⟩
    · rintro ⟨-, htake⟩
      exact ⟨data.drop 12, by rw [← htake, List.take_append_drop]⟩
  · exact Outcome.safe_iff_ok_or_err.mp (Header.safe_fromBytes data)
  · exact Outcome.safe_iff_ok_or_err.mp (safe_fromBytes data)

section Conversions

variable (md5 : List UInt8 → Digest) {packet : Packet} (key : List UInt8)

theorem toObfuscated_of_not_contains
    (h : packet.header.flags.contains tacPlusUnencryptedFlag = false) :
    packet.toObfuscated md5 key = .ok packet := by
  simp [toObfuscated, h]

theorem toDeobfuscated_of_contains
    (h : packet.header.flags.contains tacPlusUnencryptedFlag = true) :
    packet.toDeobfuscated md5 key = .ok packet := by
  simp [toDeobfuscated, h]

/-- A body no longer than declared is obfuscated in place with the pad of its own header. -/
theorem toObfuscated_of_contains
    (h : packet.header.flags.contains tacPlusUnencryptedFlag = true)
    (hbody : packet.body.length ≤ packet.header.length.toNat) :
    packet.toObfuscated md5 key =
      .ok ⟨{ packet.header with flags := packet.header.flags.remove tacPlusUnencryptedFlag },
        convert md5 packet.header packet.body key⟩ := by
  have hconvert := convertInplace_setFlags md5 hbody
    (packet.header.flags.remove tacPlusUnencryptedFlag) key
  simp only [toObfuscated, h, Bool.not_true, BitFlags.set, Bool.false_eq_true, if_false,
    hconvert, Outcome.bind_def, Outcome.ok_bind, Outcome.pure_eq]

theorem toDeobfuscated_of_not_contains
    (h : packet.header.flags.contains tacPlusUnencryptedFlag = false)
    (hbody : packet.body.length ≤ packet.header.length.toNat) :
    packet.toDeobfuscated md5 key =
      .ok ⟨{ packet.header with flags := packet.header.flags.insert tacPlusUnencryptedFlag },
        convert md5 packet.header packet.body key⟩ := by
  have hconvert := convertInplace_setFlags md5 hbody
    (packet.header.flags.insert tacPlusUnencryptedFlag) key
  simp only [toDeobfuscated, h, BitFlags.set, if_true, hconvert, Outcome.bind_def,
    Outcome.ok_bind, Outcome.pure_eq]

end Conversions

end Packet

end TacacsRs.Messages
