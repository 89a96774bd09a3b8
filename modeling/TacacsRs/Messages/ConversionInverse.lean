import TacacsRs.Messages.ConversionAgreement

/-!
# Conversions undo each other

The pad depends on neither the flags nor the type of a header, so a converted
packet has the pad of the packet it was made from. On a body as long as declared
the pad covers the whole body, and the second conversion takes it off again.
-/

namespace TacacsRs.Messages

open Rust TacacsFlags

theorem TacacsFlags.isSingle_tacPlusUnencryptedFlag : tacPlusUnencryptedFlag.IsSingle :=
  ⟨0, by decide⟩

namespace Packet

/-- The packets differ in the unencrypted flag and in the bytes of the body at most. -/
structure SameButObfuscation (packet converted : Packet) : Prop where
  header : { converted.header with flags := packet.header.flags } = packet.header
  flags : converted.header.flags.remove tacPlusUnencryptedFlag =
    packet.header.flags.remove tacPlusUnencryptedFlag
  length : converted.body.length = packet.body.length

theorem sameButObfuscation_self (packet : Packet) : SameButObfuscation packet packet :=
  ⟨rfl, rfl, rfl⟩

variable (md5 : List UInt8 → Digest) (key : List UInt8)

/-- The conversions turn the two packets into each other. -/
structure Inverse (unencrypted encrypted : Packet) : Prop where
  toObfuscated : unencrypted.toObfuscated md5 key = .ok encrypted
  toDeobfuscated : encrypted.toDeobfuscated md5 key = .ok unencrypted
  asObfuscated : unencrypted.asObfuscated md5 key = .ok (some encrypted)
  asDeobfuscated : encrypted.asDeobfuscated md5 key = .ok (some unencrypted)

/-- The packet with its body converted, under new flags. -/
def converted (packet : Packet) (flags : TacacsFlags) : Packet :=
  ⟨{ packet.header with flags }, convert md5 packet.header packet.body key⟩

variable {packet : Packet}

section Converted

theorem length_body_converted (h : packet.body.length = packet.header.length.toNat)
    (flags : TacacsFlags) :
    (converted md5 key packet flags).body.length = packet.body.length := by
  rw [converted, length_convert, h, Nat.min_self]

theorem sameButObfuscation_converted (h : packet.body.length = packet.header.length.toNat)
    {flags : TacacsFlags} (hflags : flags.remove tacPlusUnencryptedFlag =
      packet.header.flags.remove tacPlusUnencryptedFlag) :
    SameButObfuscation packet (converted md5 key packet flags) where
  header := rfl
  flags := hflags
  length := length_body_converted md5 key h flags

theorem exact_converted (h : packet.body.length = packet.header.length.toNat)
    (flags : TacacsFlags) : (converted md5 key packet flags).body.length =
      (converted md5 key packet flags).header.length.toNat :=
  (length_body_converted md5 key h flags).trans h

/-- Converting a converted packet brings its body back. -/
theorem converted_converted (h : packet.body.length = packet.header.length.toNat)
    (flags : TacacsFlags) :
    converted md5 key (converted md5 key packet flags) packet.header.flags = packet := by
  have hbody : convert md5 { packet.header with flags }
      (convert md5 packet.header packet.body key) key = packet.body :=
    convert_convert md5 (Nat.le_of_eq h) key
  rw [converted, converted, hbody]

theorem obfuscate_eq_converted (h : packet.body.length = packet.header.length.toNat)
    (hflag : packet.header.flags.contains tacPlusUnencryptedFlag = true) :
    packet.toObfuscated md5 key = .ok (converted md5 key packet
        (packet.header.flags.remove tacPlusUnencryptedFlag)) ∧
      packet.asObfuscated md5 key = .ok (some (converted md5 key packet
        (packet.header.flags.remove tacPlusUnencryptedFlag))) := by
  refine ⟨toObfuscated_of_contains md5 key hflag (Nat.le_of_eq h), ?_⟩
  rw [asObfuscated_of_contains md5 key hflag, if_neg (Nat.not_lt.mpr (Nat.le_of_eq h.symm))]
  rfl

theorem deobfuscate_eq_converted (h : packet.body.length = packet.header.length.toNat)
    (hflag : packet.header.flags.contains tacPlusUnencryptedFlag = false) :
    packet.toDeobfuscated md5 key = .ok (converted md5 key packet
        (packet.header.flags.insert tacPlusUnencryptedFlag)) ∧
      packet.asDeobfuscated md5 key = .ok (some (converted md5 key packet
        (packet.header.flags.insert tacPlusUnencryptedFlag))) := by
  refine ⟨toDeobfuscated_of_not_contains md5 key hflag (Nat.le_of_eq h), ?_⟩
  rw [asDeobfuscated_of_not_contains md5 key hflag,
    if_neg (Nat.not_lt.mpr (Nat.le_of_eq h.symm))]
  rfl

end Converted

/-- An unencrypted packet and its obfuscation. -/
theorem inverse_of_contains (h : packet.body.length = packet.header.length.toNat)
    (hflag : packet.header.flags.contains tacPlusUnencryptedFlag = true) :
    Inverse md5 key packet (converted md5 key packet
      (packet.header.flags.remove tacPlusUnencryptedFlag)) := by
  obtain ⟨hto, has⟩ := obfuscate_eq_converted md5 key h hflag
  have hclear : (converted md5 key packet (packet.header.flags.remove tacPlusUnencryptedFlag)
      ).header.flags.contains tacPlusUnencryptedFlag = false :=
    BitFlags.contains_remove (by decide)
  have hrestored : (converted md5 key packet (packet.header.flags.remove tacPlusUnencryptedFlag)
      ).header.flags.insert tacPlusUnencryptedFlag = packet.header.flags :=
    BitFlags.insert_remove hflag
  obtain ⟨hback, hasBack⟩ :=
    deobfuscate_eq_converted md5 key (exact_converted md5 key h _) hclear
  rw [hrestored, converted_converted md5 key h] at hback hasBack
  exact ⟨hto, hback, has, hasBack⟩

/-- An obfuscated packet and what it was made from. -/
theorem inverse_of_not_contains (h : packet.body.length = packet.header.length.toNat)
    (hflag : packet.header.flags.contains tacPlusUnencryptedFlag = false) :
    Inverse md5 key (converted md5 key packet
      (packet.header.flags.insert tacPlusUnencryptedFlag)) packet := by
  obtain ⟨hto, has⟩ := deobfuscate_eq_converted md5 key h hflag
  have hset : (converted md5 key packet (packet.header.flags.insert tacPlusUnencryptedFlag)
      ).header.flags.contains tacPlusUnencryptedFlag = true := BitFlags.contains_insert _ _
  have hrestored : (converted md5 key packet (packet.header.flags.insert tacPlusUnencryptedFlag)
      ).header.flags.remove tacPlusUnencryptedFlag = packet.header.flags :=
    (BitFlags.remove_insert _ _).trans
      (BitFlags.remove_of_not_contains isSingle_tacPlusUnencryptedFlag hflag)
  obtain ⟨hback, hasBack⟩ :=
    obfuscate_eq_converted md5 key (exact_converted md5 key h _) hset
  rw [hrestored, converted_converted md5 key h] at hback hasBack
  exact ⟨hback, hto, hasBack, has⟩

/-- What the obfuscating conversions return differs in the obfuscation only, and obfuscating it
again changes nothing. -/
theorem obfuscated_spec (h : packet.body.length = packet.header.length.toNat) :
    ∃ obfuscated, packet.toObfuscated md5 key = .ok obfuscated ∧
      obfuscated.toObfuscated md5 key = .ok obfuscated ∧
      SameButObfuscation packet obfuscated ∧
      ∀ borrowed, packet.asObfuscated md5 key = .ok (some borrowed) → borrowed = obfuscated := by
  cases hflag : packet.header.flags.contains tacPlusUnencryptedFlag with
  | true =>
      obtain ⟨hto, has⟩ := obfuscate_eq_converted md5 key h hflag
      refine ⟨_, hto, ?_, ?_, ?_⟩
      · exact toObfuscated_of_not_contains md5 key (BitFlags.contains_remove (by decide))
      · exact sameButObfuscation_converted md5 key h (BitFlags.remove_remove _ _)
      · intro borrowed hborrowed
        rw [has, Outcome.ok.injEq, Option.some.injEq] at hborrowed
        exact hborrowed.symm
  | false =>
      have hto := toObfuscated_of_not_contains md5 key hflag
      refine ⟨packet, hto, hto, sameButObfuscation_self packet, ?_⟩
      intro borrowed hborrowed
      simp [asObfuscated_of_not_contains md5 key hflag] at hborrowed

theorem deobfuscated_spec (h : packet.body.length = packet.header.length.toNat) :
    ∃ deobfuscated, packet.toDeobfuscated md5 key = .ok deobfuscated ∧
      deobfuscated.toDeobfuscated md5 key = .ok deobfuscated ∧
      SameButObfuscation packet deobfuscated ∧
      ∀ borrowed, packet.asDeobfuscated md5 key = .ok (some borrowed) →
        borrowed = deobfuscated := by
  cases hflag : packet.header.flags.contains tacPlusUnencryptedFlag with
  | false =>
      obtain ⟨hto, has⟩ := deobfuscate_eq_converted md5 key h hflag
      refine ⟨_, hto, ?_, ?_, ?_⟩
      · exact toDeobfuscated_of_contains md5 key (BitFlags.contains_insert _ _)
      · exact sameButObfuscation_converted md5 key h (BitFlags.remove_insert _ _)
      · intro borrowed hborrowed
        rw [has, Outcome.ok.injEq, Option.some.injEq] at hborrowed
        exact hborrowed.symm
  | true =>
      have hto := toDeobfuscated_of_contains md5 key hflag
      refine ⟨packet, hto, hto, sameButObfuscation_self packet, ?_⟩
      intro borrowed hborrowed
      simp [asDeobfuscated_of_contains md5 key hflag] at hborrowed

/-- On a body as long as declared the conversions of both kinds undo each other under every key;
what any of them returns differs from the packet in the unencrypted flag and the bytes of the
body at most, and the consuming ones are idempotent. -/
theorem conversions_undo_each_other (h : packet.body.length = packet.header.length.toNat) :
    (packet.header.flags.contains tacPlusUnencryptedFlag = true →
        ∃ encrypted, Inverse md5 key packet encrypted) ∧
      (packet.header.flags.contains tacPlusUnencryptedFlag = false →
        ∃ unencrypted, Inverse md5 key unencrypted packet) ∧
      (∀ converted, packet.toObfuscated md5 key = .ok converted ∨
          packet.toDeobfuscated md5 key = .ok converted ∨
          packet.asObfuscated md5 key = .ok (some converted) ∨
          packet.asDeobfuscated md5 key = .ok (some converted) →
        SameButObfuscation packet converted) ∧
      (∃ obfuscated, packet.toObfuscated md5 key = .ok obfuscated ∧
        obfuscated.toObfuscated md5 key = .ok obfuscated) ∧
      ∃ deobfuscated, packet.toDeobfuscated md5 key = .ok deobfuscated ∧
        deobfuscated.toDeobfuscated md5 key = .ok deobfuscated := by
  obtain ⟨obfuscated, hobfuscate, hobfuscateAgain, hobfuscated, hasObfuscated⟩ :=
    obfuscated_spec md5 key h
  obtain ⟨deobfuscated, hdeobfuscate, hdeobfuscateAgain, hdeobfuscated, hasDeobfuscated⟩ :=
    deobfuscated_spec md5 key h
  refine ⟨fun hflag => ⟨_, inverse_of_contains md5 key h hflag⟩,
    fun hflag => ⟨_, inverse_of_not_contains md5 key h hflag⟩, ?_,
    ⟨obfuscated, hobfuscate, hobfuscateAgain⟩, deobfuscated, hdeobfuscate, hdeobfuscateAgain⟩
  rintro converted (hto | hto | has | has)
  · obtain rfl := Outcome.ok.inj (hobfuscate.symm.trans hto)
    exact hobfuscated
  · obtain rfl := Outcome.ok.inj (hdeobfuscate.symm.trans hto)
    exact hdeobfuscated
  · rw [hasObfuscated converted has]
    exact hobfuscated
  · rw [hasDeobfuscated converted has]
    exact hdeobfuscated

theorem conversions_undo_each_other_fiveBytes :
    (⟨fiveByteHeader, [0, 0, 0, 0, 1]⟩ : Packet).header.flags.contains tacPlusUnencryptedFlag =
        true ∧
      ∃ encrypted, Inverse (fun block => ⟨List.replicate 16 (UInt8.ofNat block.length), by simp⟩)
        [120, 120] ⟨fiveByteHeader, [0, 0, 0, 0, 1]⟩ encrypted := by
  have hflag : (⟨fiveByteHeader, [0, 0, 0, 0, 1]⟩ : Packet).header.flags.contains
      tacPlusUnencryptedFlag = true := by decide
  exact ⟨hflag, (conversions_undo_each_other _ _ rfl).1 hflag⟩

end Packet

end TacacsRs.Messages
