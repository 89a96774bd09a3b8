import TacacsRs.Networking.FrameSync
import TacacsRs.Networking.WriteHandler

/-!
# From the write loop of one side to the read loop of the other

Both sides hold the same key. The writer clears the flag and the reader sets it
again; the pad does not depend on it, so the two conversions cancel.
-/

namespace TacacsRs.Networking

open Rust Messages TacacsFlags

section Connection

variable (md5 : List UInt8 → Digest) (obfuscationKey : Option (List UInt8))

theorem sent_header_length (packet : Packet) :
    (sent md5 obfuscationKey packet).header.length = packet.header.length := by
  cases obfuscationKey with
  | none => rfl
  | some key =>
      simp only [sent]
      split <;> rfl

theorem sent_body_length {packet : Packet}
    (hlength : packet.body.length = packet.header.length.toNat) :
    (sent md5 obfuscationKey packet).body.length =
      (sent md5 obfuscationKey packet).header.length.toNat := by
  rw [sent_header_length]
  cases obfuscationKey with
  | none => exact hlength
  | some key =>
      simp only [sent]
      split
      · simp [hlength]
      · exact hlength

theorem sent_isDeclared {packet : Packet} (hflags : packet.header.flags.IsDeclared) :
    (sent md5 obfuscationKey packet).header.flags.IsDeclared := by
  cases obfuscationKey with
  | none => exact hflags
  | some key =>
      simp only [sent]
      split
      · exact hflags.remove tacPlusUnencryptedFlag
      · exact hflags

theorem sent_not_contains (key : List UInt8) (packet : Packet) :
    (sent md5 (some key) packet).header.flags.contains tacPlusUnencryptedFlag = false := by
  simp only [sent]
  split
  · exact BitFlags.contains_remove (by decide)
  · next hflag => exact Bool.eq_false_iff.mpr hflag

/-- Reading undoes writing: a packet arrives as it would if it had not been obfuscated. -/
theorem received_sent {packet : Packet}
    (hlength : packet.body.length = packet.header.length.toNat) :
    received md5 obfuscationKey (sent md5 obfuscationKey packet) =
      received md5 obfuscationKey packet := by
  cases obfuscationKey with
  | none => rfl
  | some key =>
      by_cases hflag : packet.header.flags.contains tacPlusUnencryptedFlag
      · have hsent : sent md5 (some key) packet =
            ⟨{ packet.header with flags := packet.header.flags.remove tacPlusUnencryptedFlag },
              convert md5 packet.header packet.body key⟩ := if_pos hflag
        have hclear := sent_not_contains md5 key packet
        have hpad : ∀ data, convert md5
            { packet.header with flags := packet.header.flags.remove tacPlusUnencryptedFlag }
            data key = convert md5 packet.header data key :=
          fun data => convert_congr md5 data key rfl rfl rfl rfl
        rw [hsent] at hclear ⊢
        simp only [received, hclear, hflag, hpad, convert_convert md5 (Nat.le_of_eq hlength),
          BitFlags.insert_remove hflag, Bool.false_eq_true, if_true, if_false]
      · have hsent : sent md5 (some key) packet = packet := if_neg hflag
        rw [hsent]

theorem run_written {packets : List Packet}
    (hlength : ∀ packet ∈ packets, packet.body.length = packet.header.length.toNat)
    (hflags : ∀ packet ∈ packets, packet.header.flags.IsDeclared) :
    ((readLoop md5 obfuscationKey).run
        (writeLoop md5 obfuscationKey packets).1.flatten).outputs =
      packets.map (received md5 obfuscationKey) := by
  rw [writeLoop_eq md5 obfuscationKey hlength]
  dsimp only
  induction packets with
  | nil =>
      rw [List.map_nil, List.flatten_nil, run_of_lt md5 obfuscationKey (by decide)]
      rfl
  | cons packet packets ih =>
      have hpacketLength := hlength packet (List.mem_cons_self ..)
      have hpacketFlags := hflags packet (List.mem_cons_self ..)
      have htail := ih (fun p hp => hlength p (List.mem_cons_of_mem _ hp))
        (fun p hp => hflags p (List.mem_cons_of_mem _ hp))
      have hround := readRound_of_accepted md5 obfuscationKey
        (Header.length_toBytes (sent md5 obfuscationKey packet).header)
        (Header.fromBytes_toBytes (sent_isDeclared md5 obfuscationKey hpacketFlags))
        (sent_body_length md5 obfuscationKey hpacketLength)
      rw [List.map_cons, List.map_cons, List.flatten_cons, Packet.toBytes, List.append_assoc,
        StreamLoop.run_of_next (hround _), htail,
        received_sent md5 obfuscationKey hpacketLength]
      rfl

end Connection

/-- What the writer puts on the stream, the reader with the same key hands on as the packets
that were queued: in order, identical but for packets queued obfuscated, which arrive
deobfuscated. A truncated stream yields a prefix of them. With a key, no frame on the stream
has the flag of an unobfuscated body. -/
theorem reader_inverts_writer (md5 : List UInt8 → Digest) (obfuscationKey : Option (List UInt8))
    (packets : List Packet)
    (hlength : ∀ packet ∈ packets, packet.body.length = packet.header.length.toNat)
    (hflags : ∀ packet ∈ packets, packet.header.flags.IsDeclared) :
    let written := (TcpConnection.writeHandler md5 ⟨obfuscationKey⟩ packets).1
    let read := fun stream => (TcpConnection.readHandler md5 ⟨obfuscationKey⟩ stream).outputs
    read written.flatten = packets.map (received md5 obfuscationKey) ∧
      (∀ truncated, truncated <+: written.flatten →
        read truncated <+: packets.map (received md5 obfuscationKey)) ∧
      (obfuscationKey.isSome → ∀ frame ∈ written, ∃ packet,
        Packet.fromBytes frame = .ok packet ∧
          packet.header.flags.contains tacPlusUnencryptedFlag = false) := by
  dsimp only
  have hrun := run_written md5 obfuscationKey hlength hflags
  refine ⟨hrun, ?_, ?_⟩
  · rintro truncated ⟨more, hmore⟩
    have hpre := StreamLoop.Local.outputs_prefix (readLoop_local md5 obfuscationKey)
      truncated more
    rw [hmore] at hpre
    exact hrun ▸ hpre
  · intro hkey frame hframe
    obtain ⟨key, rfl⟩ := Option.isSome_iff_exists.mp hkey
    rw [TcpConnection.writeHandler, writeLoop_eq md5 (some key) hlength, List.mem_map] at hframe
    obtain ⟨packet, hpacket, rfl⟩ := hframe
    exact ⟨sent md5 (some key) packet,
      Packet.fromBytes_eq_ok_iff.mpr ⟨sent_isDeclared md5 _ (hflags packet hpacket), rfl⟩,
      sent_not_contains md5 key packet⟩

/-- The digests of the first pad blocks of sequence numbers 1 and 3 in session 7, for the
key `key`. -/
def session7Md5 (block : List UInt8) : Digest :=
  if block = [0, 0, 0, 7, 107, 101, 121, 0xc0, 1] then
    ⟨[0x9c, 0x06, 0x56, 0xd5, 0x15, 0xb9, 0x6b, 0xe6, 0x7f, 0x72, 0xf1, 0x8d, 0xd9, 0xf7, 0x4f,
      0xfd], rfl⟩
  else
    ⟨[0xd8, 0xc0, 0xe7, 0x5d, 0x63, 0x38, 0xee, 0x49, 0x40, 0x83, 0xba, 0xad, 0x91, 0x3d, 0x4c,
      0xa0], rfl⟩

/-- Two packets of session 7, the first one not obfuscated and the second one obfuscated. -/
def session7Packets : List Packet :=
  [⟨{ majorVersion := .tacacsPlusMajor1, minorVersion := .tacacsPlusMinorVerDefault,
      tacacsType := .tacPlusAccounting, seqNo := 1, flags := tacPlusUnencryptedFlag,
      sessionId := 7, length := 5 }, [0, 0, 0, 0, 1]⟩,
    ⟨{ majorVersion := .tacacsPlusMajor1, minorVersion := .tacacsPlusMinorVerDefault,
       tacacsType := .tacPlusAccounting, seqNo := 3, flags := BitFlags.empty,
       sessionId := 7, length := 2 }, [0xd8, 0xc1]⟩]

theorem reader_inverts_writer_session7 :
    let written := (TcpConnection.writeHandler session7Md5 ⟨some [107, 101, 121]⟩
      session7Packets).1
    let read := fun stream =>
      (TcpConnection.readHandler session7Md5 ⟨some [107, 101, 121]⟩ stream).outputs
    read written.flatten = session7Packets.map (received session7Md5 (some [107, 101, 121])) ∧
      (∀ truncated, truncated <+: written.flatten →
        read truncated <+: session7Packets.map (received session7Md5 (some [107, 101, 121]))) ∧
      ((some [107, 101, 121]).isSome → ∀ frame ∈ written, ∃ packet,
        Packet.fromBytes frame = .ok packet ∧
          packet.header.flags.contains tacPlusUnencryptedFlag = false) :=
  reader_inverts_writer session7Md5 (some [107, 101, 121]) session7Packets (by decide) (by decide)

end TacacsRs.Networking
