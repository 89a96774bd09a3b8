import TacacsRs.Messages.Packet

/-!
# Frames that declare their own length

Header and body of a packet are private, so every packet is built by `new` or
`fromBytes` and changed by the four conversions only. The conversions keep a
self-consistent packet self-consistent; the two ways in do not establish it:
`new` lets a longer body through and `fromBytes` checks nothing.
-/

namespace TacacsRs.Messages

open Rust

/-- The length that the last four bytes of a header declare. -/
def declaredLength (frame : List UInt8) : Nat :=
  match frame.drop 8 with
  | a :: b :: c :: d :: _ => (u32FromBeBytes a b c d).toNat
  | _ => 0

@[simp] theorem declaredLength_toBytes_append (header : Header) (rest : List UInt8) :
    declaredLength (header.toBytes ++ rest) = header.length.toNat := by
  simp only [declaredLength, Header.toBytes, u32ToBeBytes, List.cons_append, List.nil_append,
    List.drop_succ_cons, List.drop_zero]
  exact congrArg UInt32.toNat (u32FromBeBytes_eq_iff.mpr rfl)

namespace Packet

/-- The body is as long as the header declares, in the packet and in the bytes written for it. -/
def SelfConsistent (packet : Packet) : Prop :=
  packet.body.length = packet.header.length.toNat ∧
    (packet.toBytes.drop tacacsHeaderLength).length = declaredLength packet.toBytes

theorem selfConsistent_iff {packet : Packet} :
    packet.SelfConsistent ↔ packet.body.length = packet.header.length.toNat := by
  unfold SelfConsistent tacacsHeaderLength
  constructor
  · exact fun h => h.1
  · intro h
    refine ⟨h, ?_⟩
    rw [List.length_drop, length_toBytes, toBytes, declaredLength_toBytes_append, ← h]
    omega

/-- The two public ways to build a packet, with their arguments. -/
inductive Construction where
  | new (header : Header) (body : List UInt8)
  | fromBytes (data : List UInt8)

/-- What the construction builds. -/
def Construction.run : Construction → Outcome Packet
  | .new header body => Packet.new header body
  | .fromBytes data => Packet.fromBytes data

/-- The four conversions, with the key they are called with. -/
inductive Conversion where
  | asObfuscated (key : List UInt8)
  | asDeobfuscated (key : List UInt8)
  | toObfuscated (key : List UInt8)
  | toDeobfuscated (key : List UInt8)

variable (md5 : List UInt8 → Digest)

/-- The packet a conversion hands back, if it hands one back. -/
def Conversion.run (packet : Packet) : Conversion → Outcome (Option Packet)
  | .asObfuscated key => packet.asObfuscated md5 key
  | .asDeobfuscated key => packet.asDeobfuscated md5 key
  | .toObfuscated key => (packet.toObfuscated md5 key).bind fun p => .ok (some p)
  | .toDeobfuscated key => (packet.toDeobfuscated md5 key).bind fun p => .ok (some p)

/-- The packets some sequence of conversions reaches from one construction. -/
inductive Obtained (construction : Construction) : Packet → Prop
  | construct {packet} (h : construction.run = .ok packet) : Obtained construction packet
  | convert {packet converted} (conversion : Conversion) (before : Obtained construction packet)
      (h : conversion.run md5 packet = .ok (some converted)) : Obtained construction converted

/-- The input of a construction carries exactly the body bytes its header declares. -/
def Construction.IsExact : Construction → Prop
  | .new header body => body.length ≤ header.length.toNat
  | .fromBytes data => ∀ header, Header.fromBytes data = .ok header →
      data.length = tacacsHeaderLength + header.length.toNat

/-- Building a packet gives a self-consistent one exactly on exact input. -/
theorem Construction.selfConsistent_iff {construction : Construction} {packet : Packet}
    (h : construction.run = .ok packet) : packet.SelfConsistent ↔ construction.IsExact := by
  rw [Packet.selfConsistent_iff]
  cases construction with
  | new header body =>
      obtain ⟨hlength, rfl⟩ := new_eq_ok_iff.mp h
      simp only [IsExact]
      omega
  | fromBytes data =>
      obtain ⟨hflags, rfl⟩ := fromBytes_eq_ok_iff.mp h
      have hheader := Header.fromBytes_toBytes_append hflags packet.body
      simp only [IsExact, toBytes, hheader, Outcome.ok.injEq, forall_eq', List.length_append,
        Header.length_toBytes, tacacsHeaderLength]
      omega

/-- Input that is not exact is accepted. -/
theorem Construction.exists_packet {construction : Construction}
    (h : ¬ construction.IsExact) : ∃ packet, construction.run = .ok packet := by
  cases construction with
  | new header body =>
      simp only [IsExact, Nat.not_le] at h
      exact ⟨_, new_eq_ok_iff.mpr ⟨Nat.le_of_lt h, rfl⟩⟩
  | fromBytes data =>
      simp only [IsExact, not_forall] at h
      obtain ⟨header, hheader, -⟩ := h
      simp [run, Packet.fromBytes, hheader]

/-- On a body no longer than declared a conversion changes nothing, or flags and body bytes. -/
theorem Conversion.run_cases {conversion : Conversion} {packet converted : Packet}
    (hle : packet.body.length ≤ packet.header.length.toNat)
    (h : conversion.run md5 packet = .ok (some converted)) :
    converted = packet ∨ ∃ flags key,
      converted = ⟨{ packet.header with flags }, convert md5 packet.header packet.body key⟩ := by
  cases conversion with
  | asObfuscated key =>
      simp only [run, Packet.asObfuscated] at h
      split at h
      · simp at h
      · simp only [Outcome.bind_def, Outcome.bind_eq_ok_iff, Outcome.unwrap_eq_ok_iff,
          new_eq_ok_iff, Outcome.pure_eq, Outcome.ok.injEq, Option.some.injEq] at h
        obtain ⟨_, ⟨-, rfl⟩, rfl⟩ := h
        exact Or.inr ⟨_, key, rfl⟩
  | asDeobfuscated key =>
      simp only [run, Packet.asDeobfuscated] at h
      split at h
      · simp at h
      · simp only [Outcome.bind_def, Outcome.bind_eq_ok_iff, Outcome.unwrap_eq_ok_iff,
          new_eq_ok_iff, Outcome.pure_eq, Outcome.ok.injEq, Option.some.injEq] at h
        obtain ⟨_, ⟨-, rfl⟩, rfl⟩ := h
        exact Or.inr ⟨_, key, rfl⟩
  | toObfuscated key =>
      simp only [run, Outcome.bind_eq_ok_iff, Outcome.ok.injEq, Option.some.injEq] at h
      obtain ⟨_, h, rfl⟩ := h
      cases hflag : packet.header.flags.contains TacacsFlags.tacPlusUnencryptedFlag with
      | false =>
          rw [toObfuscated_of_not_contains md5 key hflag, Outcome.ok.injEq] at h
          exact Or.inl h.symm
      | true =>
          rw [toObfuscated_of_contains md5 key hflag hle, Outcome.ok.injEq] at h
          exact Or.inr ⟨_, key, h.symm⟩
  | toDeobfuscated key =>
      simp only [run, Outcome.bind_eq_ok_iff, Outcome.ok.injEq, Option.some.injEq] at h
      obtain ⟨_, h, rfl⟩ := h
      cases hflag : packet.header.flags.contains TacacsFlags.tacPlusUnencryptedFlag with
      | true =>
          rw [toDeobfuscated_of_contains md5 key hflag, Outcome.ok.injEq] at h
          exact Or.inl h.symm
      | false =>
          rw [toDeobfuscated_of_not_contains md5 key hflag hle, Outcome.ok.injEq] at h
          exact Or.inr ⟨_, key, h.symm⟩

/-- No conversion breaks the agreement of header and body. -/
theorem Conversion.selfConsistent {conversion : Conversion} {packet converted : Packet}
    (hpacket : packet.SelfConsistent)
    (h : conversion.run md5 packet = .ok (some converted)) : converted.SelfConsistent := by
  have hlength := Packet.selfConsistent_iff.mp hpacket
  rcases conversion.run_cases md5 (Nat.le_of_eq hlength) h with rfl | ⟨flags, key, rfl⟩
  · exact hpacket
  · rw [Packet.selfConsistent_iff]
    simp [hlength]

/-- Every packet reached from a construction is self-consistent exactly when the construction
was given as many body bytes as its header declares. -/
theorem obtained_selfConsistent_iff (construction : Construction) :
    (∀ packet, Obtained md5 construction packet → packet.SelfConsistent) ↔
      construction.IsExact := by
  constructor
  · intro h
    by_contra hexact
    obtain ⟨packet, hrun⟩ := Construction.exists_packet hexact
    exact hexact ((Construction.selfConsistent_iff hrun).mp (h packet (.construct hrun)))
  · intro hexact packet hobtained
    induction hobtained with
    | construct hrun => exact (Construction.selfConsistent_iff hrun).mpr hexact
    | convert conversion _ hrun ih => exact conversion.selfConsistent md5 ih hrun

/-- A header that declares five body bytes; `fromBytes` accepts it with no body at all. -/
def fiveByteHeader : Header :=
  { majorVersion := .tacacsPlusMajor1, minorVersion := .tacacsPlusMinorVerDefault,
    tacacsType := .tacPlusAccounting, seqNo := 2, flags := TacacsFlags.tacPlusUnencryptedFlag,
    sessionId := 0, length := 5 }

theorem not_forall_obtained_selfConsistent :
    ¬ ∀ (md5 : List UInt8 → Digest) (construction : Construction) (packet : Packet),
      Obtained md5 construction packet → packet.SelfConsistent := by
  intro h
  have hrun : (Construction.fromBytes fiveByteHeader.toBytes).run = .ok ⟨fiveByteHeader, []⟩ := by
    decide
  have hconsistent := h (fun _ => ⟨List.replicate 16 0, rfl⟩) _ _ (.construct hrun)
  exact absurd hconsistent.1 (by decide)

end Packet

end TacacsRs.Messages
