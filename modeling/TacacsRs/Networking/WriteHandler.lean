import TacacsRs.Networking.ReadHandler

/-!
# The write loop of a connection

`TcpConnection::write_handler` and the write task of `TlsConnection` take
packets from the outgoing queue until every sender is gone. The result lists
the bytes of each `write_all`, in order.
-/

namespace TacacsRs.Networking

open Rust Messages TacacsFlags

section WriteLoop

variable (md5 : List UInt8 → Digest) (obfuscationKey : Option (List UInt8))

/-- The packet as written: obfuscated when there is a key and it is not obfuscated yet. -/
def obfuscateOutgoing (packet : Packet) : Outcome Packet :=
  let isPacketDeobfuscated := packet.header.flags.contains tacPlusUnencryptedFlag
  match obfuscationKey with
  | some key =>
      match isPacketDeobfuscated with
      | true => packet.toObfuscated md5 key
      | false => pure packet
  | none => pure packet

/-- The loop of `write_handler` on the packets that are queued until the queue closes. -/
def writeLoop : List Packet → List (List UInt8) × Outcome Unit
  | [] => ([], .err (.msg "No packet received"))
  | packet :: packets =>
      match obfuscateOutgoing md5 obfuscationKey packet with
      | .err e => ([], .err e)
      | .panic => ([], .panic)
      | .ok packet =>
          let later := writeLoop packets
          (packet.toBytes :: later.1, later.2)

/-- What a packet from the queue is written as. -/
def sent (packet : Packet) : Packet :=
  match obfuscationKey with
  | none => packet
  | some key =>
      if packet.header.flags.contains tacPlusUnencryptedFlag then
        ⟨{ packet.header with flags := packet.header.flags.remove tacPlusUnencryptedFlag },
          convert md5 packet.header packet.body key⟩
      else
        packet

theorem obfuscateOutgoing_eq {packet : Packet}
    (hbody : packet.body.length ≤ packet.header.length.toNat) :
    obfuscateOutgoing md5 obfuscationKey packet = .ok (sent md5 obfuscationKey packet) := by
  cases obfuscationKey with
  | none => rfl
  | some key =>
      simp only [obfuscateOutgoing, sent]
      cases hflag : packet.header.flags.contains tacPlusUnencryptedFlag with
      | true => exact Packet.toObfuscated_of_contains md5 key hflag hbody
      | false => rfl

/-- Every packet whose body is as long as declared is written, each with one `write_all`. -/
theorem writeLoop_eq {packets : List Packet}
    (hlength : ∀ packet ∈ packets, packet.body.length = packet.header.length.toNat) :
    writeLoop md5 obfuscationKey packets =
      (packets.map fun packet => (sent md5 obfuscationKey packet).toBytes,
        .err (.msg "No packet received")) := by
  induction packets with
  | nil => rfl
  | cons packet packets ih =>
      have hpacket := hlength packet (List.mem_cons_self ..)
      have hpackets := ih fun p hp => hlength p (List.mem_cons_of_mem _ hp)
      simp only [writeLoop, obfuscateOutgoing_eq md5 obfuscationKey (Nat.le_of_eq hpacket),
        hpackets, List.map_cons]

end WriteLoop

/-- `TcpConnection::write_handler`. -/
def TcpConnection.writeHandler (md5 : List UInt8 → Digest) (connection : TcpConnection)
    (packets : List Packet) : List (List UInt8) × Outcome Unit :=
  writeLoop md5 connection.obfuscationKey packets

/-- The write task of `TlsConnection::handle_connection`. -/
def TlsConnection.writeTask (md5 : List UInt8 → Digest) (connection : TlsConnection)
    (packets : List Packet) : List (List UInt8) × Outcome Unit :=
  writeLoop md5 connection.obfuscationKey packets

end TacacsRs.Networking
