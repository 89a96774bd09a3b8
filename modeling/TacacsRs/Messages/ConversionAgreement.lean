import TacacsRs.Messages.FrameConsistency

/-!
# Borrowing and consuming conversions

`as_obfuscated` and `as_deobfuscated` zip a copy of the body with the pad and
unwrap `new` on the result, so they panic on a body shorter than declared;
`to_obfuscated` and `to_deobfuscated` index the pad by body positions, so they
panic on a longer one. Both kinds of bodies can be built.
-/

namespace TacacsRs.Messages.Packet

open Rust TacacsFlags

/-- Neither conversion panics, and the consuming one hands back what the borrowing one does, or
the packet itself where that one hands back nothing. -/
structure Agree (packet : Packet) (borrowed : Outcome (Option Packet))
    (consumed : Outcome Packet) : Prop where
  borrowed_safe : borrowed ≠ .panic
  consumed_safe : consumed ≠ .panic
  some : ∀ converted, borrowed = .ok (some converted) → consumed = .ok converted
  none : borrowed = .ok none → consumed = .ok packet

variable (md5 : List UInt8 → Digest) {packet : Packet} (key : List UInt8)

/-- Both pairs of conversions agree on the packet. -/
def ConversionsAgree (packet : Packet) : Prop :=
  Agree packet (packet.asObfuscated md5 key) (packet.toObfuscated md5 key) ∧
    Agree packet (packet.asDeobfuscated md5 key) (packet.toDeobfuscated md5 key)

/-- A conversion that has nothing to do hands back nothing, or the packet as it is. -/
theorem Agree.of_none {borrowed : Outcome (Option Packet)} {consumed : Outcome Packet}
    (hborrowed : borrowed = .ok .none) (hconsumed : consumed = .ok packet) :
    Agree packet borrowed consumed := by
  subst hborrowed hconsumed
  exact ⟨by simp, by simp, by simp, fun _ => rfl⟩

theorem Agree.of_some {converted : Packet} {borrowed : Outcome (Option Packet)}
    {consumed : Outcome Packet} (hborrowed : borrowed = .ok (.some converted))
    (hconsumed : consumed = .ok converted) : Agree packet borrowed consumed := by
  subst hborrowed hconsumed
  exact ⟨by simp, by simp, by simp, by simp⟩

/-- What a borrowing conversion makes of a packet that it converts, under the new flags. -/
theorem unwrap_new_convert (flags : TacacsFlags) :
    ((new { packet.header with flags } (convert md5 packet.header packet.body key)).unwrap.bind
      fun converted => .ok (some converted)) =
        if packet.body.length < packet.header.length.toNat then .panic
        else .ok (some ⟨{ packet.header with flags },
          convert md5 packet.header packet.body key⟩) := by
  have hlength := length_convert md5 packet.header packet.body key
  have hmin : min packet.body.length packet.header.length.toNat < packet.header.length.toNat ↔
      packet.body.length < packet.header.length.toNat := by omega
  simp only [new, hlength, hmin]
  split
  · rfl
  · rfl

theorem asObfuscated_of_not_contains
    (h : packet.header.flags.contains tacPlusUnencryptedFlag = false) :
    packet.asObfuscated md5 key = .ok none := by
  simp [asObfuscated, h]

theorem asDeobfuscated_of_contains
    (h : packet.header.flags.contains tacPlusUnencryptedFlag = true) :
    packet.asDeobfuscated md5 key = .ok none := by
  simp [asDeobfuscated, h]

theorem asObfuscated_of_contains
    (h : packet.header.flags.contains tacPlusUnencryptedFlag = true) :
    packet.asObfuscated md5 key =
      if packet.body.length < packet.header.length.toNat then .panic
      else .ok (some ⟨{ packet.header with
          flags := packet.header.flags.remove tacPlusUnencryptedFlag },
        convert md5 packet.header packet.body key⟩) := by
  rw [← unwrap_new_convert]
  simp [asObfuscated, h]

theorem asDeobfuscated_of_not_contains
    (h : packet.header.flags.contains tacPlusUnencryptedFlag = false) :
    packet.asDeobfuscated md5 key =
      if packet.body.length < packet.header.length.toNat then .panic
      else .ok (some ⟨{ packet.header with
          flags := packet.header.flags.insert tacPlusUnencryptedFlag },
        convert md5 packet.header packet.body key⟩) := by
  rw [← unwrap_new_convert]
  simp [asDeobfuscated, h]

/-- A body longer than declared runs off the pad. -/
theorem toObfuscated_of_lt (h : packet.header.flags.contains tacPlusUnencryptedFlag = true)
    (hbody : packet.header.length.toNat < packet.body.length) :
    packet.toObfuscated md5 key = .panic := by
  have hconvert : convertInplace md5 { packet.header with
      flags := packet.header.flags.set tacPlusUnencryptedFlag false } packet.body key = .panic :=
    convertInplace_of_lt md5 hbody key
  simp only [toObfuscated, h, Bool.not_true, hconvert, Outcome.bind_def, Outcome.panic_bind]

theorem toDeobfuscated_of_lt (h : packet.header.flags.contains tacPlusUnencryptedFlag = false)
    (hbody : packet.header.length.toNat < packet.body.length) :
    packet.toDeobfuscated md5 key = .panic := by
  have hconvert : convertInplace md5 { packet.header with
      flags := packet.header.flags.set tacPlusUnencryptedFlag true } packet.body key = .panic :=
    convertInplace_of_lt md5 hbody key
  simp only [toDeobfuscated, h, hconvert, Outcome.bind_def, Outcome.panic_bind]

/-- On a body as long as declared both pairs agree, whatever the packet's flags are. -/
theorem conversionsAgree_of_length_eq
    (hbody : packet.body.length = packet.header.length.toNat) :
    ConversionsAgree md5 key packet := by
  have hlong : ¬ packet.body.length < packet.header.length.toNat := by omega
  have hshort := Nat.le_of_eq hbody
  cases hflag : packet.header.flags.contains tacPlusUnencryptedFlag with
  | true =>
      refine ⟨Agree.of_some ?_ (toObfuscated_of_contains md5 key hflag hshort),
        Agree.of_none (asDeobfuscated_of_contains md5 key hflag)
          (toDeobfuscated_of_contains md5 key hflag)⟩
      rw [asObfuscated_of_contains md5 key hflag, if_neg hlong]
  | false =>
      refine ⟨Agree.of_none (asObfuscated_of_not_contains md5 key hflag)
          (toObfuscated_of_not_contains md5 key hflag),
        Agree.of_some ?_ (toDeobfuscated_of_not_contains md5 key hflag hshort)⟩
      rw [asDeobfuscated_of_not_contains md5 key hflag, if_neg hlong]

/-- On any other body one of the conversions that the flags call for panics. -/
theorem length_eq_of_conversionsAgree (h : ConversionsAgree md5 key packet) :
    packet.body.length = packet.header.length.toNat := by
  obtain ⟨hobfuscate, hdeobfuscate⟩ := h
  rcases Nat.lt_trichotomy packet.body.length packet.header.length.toNat with hlt | heq | hgt
  · cases hflag : packet.header.flags.contains tacPlusUnencryptedFlag with
    | true =>
        have hpanic := asObfuscated_of_contains md5 key hflag
        rw [if_pos hlt] at hpanic
        exact absurd hpanic hobfuscate.borrowed_safe
    | false =>
        have hpanic := asDeobfuscated_of_not_contains md5 key hflag
        rw [if_pos hlt] at hpanic
        exact absurd hpanic hdeobfuscate.borrowed_safe
  · exact heq
  · cases hflag : packet.header.flags.contains tacPlusUnencryptedFlag with
    | true => exact absurd (toObfuscated_of_lt md5 key hflag hgt) hobfuscate.consumed_safe
    | false => exact absurd (toDeobfuscated_of_lt md5 key hflag hgt) hdeobfuscate.consumed_safe

/-- Under every key, the conversions of the packet that a construction builds are safe and agree
if and only if the construction was given as many body bytes as its header declares. -/
theorem conversions_agree_iff (construction : Construction) :
    (∀ packet, construction.run = .ok packet → ConversionsAgree md5 key packet) ↔
      construction.IsExact := by
  constructor
  · intro h
    by_contra hexact
    obtain ⟨packet, hrun⟩ := Construction.exists_packet hexact
    have hlength := length_eq_of_conversionsAgree md5 key (h packet hrun)
    exact hexact ((Construction.selfConsistent_iff hrun).mp (selfConsistent_iff.mpr hlength))
  · intro hexact packet hrun
    apply conversionsAgree_of_length_eq
    exact selfConsistent_iff.mp ((Construction.selfConsistent_iff hrun).mpr hexact)

/-- The packet read from a header that declares five body bytes which do not follow. -/
theorem not_forall_conversionsAgree :
    ¬ ∀ (md5 : List UInt8 → Digest) (key : List UInt8) (construction : Construction)
      (packet : Packet), construction.run = .ok packet → ConversionsAgree md5 key packet := by
  intro h
  have hrun : (Construction.fromBytes fiveByteHeader.toBytes).run = .ok ⟨fiveByteHeader, []⟩ := by
    decide
  have hagree := h (fun _ => ⟨List.replicate 16 0, rfl⟩) [] _ _ hrun
  exact absurd (length_eq_of_conversionsAgree _ _ hagree) (by decide)

end TacacsRs.Messages.Packet
