import TacacsRs.Rust.StreamLoop
import TacacsRs.Messages.FrameConsistency

/-!
# The read loop of a connection

`TcpConnection::read_handler` and the read task of `TlsConnection` run the same
loop. The packets it hands to `send_message_to_session` are its outputs; what
becomes of them is the business of the session manager.
-/

namespace TacacsRs.Networking

open Rust Messages TacacsFlags

section ReadLoop

variable (md5 : List UInt8 → Digest) (obfuscationKey : Option (List UInt8))

/-- The packet as handed on: deobfuscated when there is a key and it is obfuscated. -/
def deobfuscateReceived (packet : Packet) : Outcome Packet :=
  let isPacketDeobfuscated := packet.header.flags.contains tacPlusUnencryptedFlag
  match obfuscationKey with
  | some key =>
      match isPacketDeobfuscated with
      | true => pure packet
      | false => packet.toDeobfuscated md5 key
  | none => pure packet

/-- One turn of the loop in `read_handler`. -/
def readRound (stream : List UInt8) : Round Packet :=
  match asyncReadExact tacacsHeaderLength stream with
  | .err e => .stop (.err (.msg e.toString))
  | .panic => .stop .panic
  | .ok (headerBuffer, stream) =>
      match Header.fromBytes headerBuffer with
      | .err _ => .next none stream
      | .panic => .stop .panic
      | .ok header =>
          match asyncReadExact header.length.toNat stream with
          | .err e => .stop (.err (.msg e.toString))
          | .panic => .stop .panic
          | .ok (bodyBuffer, stream) =>
              match Packet.new header bodyBuffer with
              | .err _ => .next none stream
              | .panic => .stop .panic
              | .ok packet =>
                  match deobfuscateReceived md5 obfuscationKey packet with
                  | .err e => .stop (.err e)
                  | .panic => .stop .panic
                  | .ok packet => .next (some packet) stream

/-- What a packet read from the stream is handed on as. -/
def received (packet : Packet) : Packet :=
  match obfuscationKey with
  | none => packet
  | some key =>
      if packet.header.flags.contains tacPlusUnencryptedFlag then
        packet
      else
        ⟨{ packet.header with flags := packet.header.flags.insert tacPlusUnencryptedFlag },
          convert md5 packet.header packet.body key⟩

theorem deobfuscateReceived_eq {packet : Packet}
    (hbody : packet.body.length ≤ packet.header.length.toNat) :
    deobfuscateReceived md5 obfuscationKey packet =
      .ok (received md5 obfuscationKey packet) := by
  cases obfuscationKey with
  | none => rfl
  | some key =>
      simp only [deobfuscateReceived, received]
      cases hflag : packet.header.flags.contains tacPlusUnencryptedFlag with
      | true => rfl
      | false => exact Packet.toDeobfuscated_of_not_contains md5 key hflag hbody

variable {headerBuffer body : List UInt8} {header : Header}

theorem readRound_of_lt {stream : List UInt8} (h : stream.length < 12) :
    readRound md5 obfuscationKey stream = .stop (.err (.msg "early eof")) := by
  unfold readRound tacacsHeaderLength
  rw [asyncReadExact_of_lt h]
  rfl

/-- A rejected header is skipped; its body stays on the stream. -/
theorem readRound_of_rejected (hlength : headerBuffer.length = 12)
    (hrejected : ¬ ∃ header, Header.fromBytes headerBuffer = .ok header)
    (rest : List UInt8) :
    readRound md5 obfuscationKey (headerBuffer ++ rest) = .next none rest := by
  unfold readRound tacacsHeaderLength
  rw [asyncReadExact_append hlength]
  dsimp only
  cases h : Header.fromBytes headerBuffer with
  | ok header => exact absurd ⟨header, h⟩ hrejected
  | err e => rfl
  | panic => exact absurd (Header.safe_fromBytes headerBuffer) (by rw [h]; exact id)

theorem readRound_of_truncated (hlength : headerBuffer.length = 12)
    (haccepted : Header.fromBytes headerBuffer = .ok header) {rest : List UInt8}
    (hrest : rest.length < header.length.toNat) :
    readRound md5 obfuscationKey (headerBuffer ++ rest) = .stop (.err (.msg "early eof")) := by
  unfold readRound tacacsHeaderLength
  rw [asyncReadExact_append hlength]
  simp only [haccepted, asyncReadExact_of_lt hrest]
  rfl

/-- An accepted header takes its body with it. -/
theorem readRound_of_accepted (hlength : headerBuffer.length = 12)
    (haccepted : Header.fromBytes headerBuffer = .ok header)
    (hbody : body.length = header.length.toNat) (rest : List UInt8) :
    readRound md5 obfuscationKey (headerBuffer ++ (body ++ rest)) =
      .next (some (received md5 obfuscationKey ⟨header, body⟩)) rest := by
  have hnew : Packet.new header body = .ok ⟨header, body⟩ :=
    Packet.new_eq_ok_iff.mpr ⟨Nat.le_of_eq hbody.symm, rfl⟩
  have hdeobfuscated : deobfuscateReceived md5 obfuscationKey ⟨header, body⟩ =
      .ok (received md5 obfuscationKey ⟨header, body⟩) :=
    deobfuscateReceived_eq md5 obfuscationKey (Nat.le_of_eq hbody)
  unfold readRound tacacsHeaderLength
  rw [asyncReadExact_append hlength]
  simp only [haccepted, asyncReadExact_append hbody, hnew]
  rw [hdeobfuscated]

/-- Everything one round can do. -/
theorem readRound_cases (stream : List UInt8) :
    (stream.length < 12 ∧
        readRound md5 obfuscationKey stream = .stop (.err (.msg "early eof"))) ∨
      ∃ headerBuffer rest, stream = headerBuffer ++ rest ∧ headerBuffer.length = 12 ∧
        ((¬ ∃ header, Header.fromBytes headerBuffer = .ok header) ∨
          ∃ header, Header.fromBytes headerBuffer = .ok header ∧
            (rest.length < header.length.toNat ∨
              ∃ body tail, rest = body ++ tail ∧ body.length = header.length.toNat)) := by
  rcases Nat.lt_or_ge stream.length 12 with hshort | hlong
  · exact .inl ⟨hshort, readRound_of_lt md5 obfuscationKey hshort⟩
  · refine .inr ⟨stream.take 12, stream.drop 12, (List.take_append_drop 12 stream).symm,
      List.length_take_of_le hlong, ?_⟩
    by_cases haccepted : ∃ header, Header.fromBytes (stream.take 12) = .ok header
    · obtain ⟨header, hheader⟩ := haccepted
      refine .inr ⟨header, hheader, ?_⟩
      rcases Nat.lt_or_ge (stream.drop 12).length header.length.toNat with hrest | hrest
      · exact .inl hrest
      · exact .inr ⟨(stream.drop 12).take header.length.toNat,
          (stream.drop 12).drop header.length.toNat, (List.take_append_drop _ _).symm,
          List.length_take_of_le hrest⟩
    · exact .inl haccepted

/-- A round that goes on consumed a header, and behaves the same on a longer stream. -/
theorem readRound_eq_next {stream rest : List UInt8} {output : Option Packet}
    (h : readRound md5 obfuscationKey stream = .next output rest) :
    rest.length < stream.length ∧
      ∀ more, readRound md5 obfuscationKey (stream ++ more) = .next output (rest ++ more) := by
  rcases readRound_cases md5 obfuscationKey stream with
    ⟨_, hstop⟩ | ⟨headerBuffer, rest', rfl, hlength, hrejected | ⟨header, haccepted,
      hrest | ⟨body, tail, rfl, hbody⟩⟩⟩
  · simp [hstop] at h
  · rw [readRound_of_rejected md5 obfuscationKey hlength hrejected, Round.next.injEq] at h
    obtain ⟨rfl, rfl⟩ := h
    refine ⟨by simp [hlength], fun more => ?_⟩
    rw [List.append_assoc]
    exact readRound_of_rejected md5 obfuscationKey hlength hrejected _
  · simp [readRound_of_truncated md5 obfuscationKey hlength haccepted hrest] at h
  · rw [readRound_of_accepted md5 obfuscationKey hlength haccepted hbody, Round.next.injEq] at h
    obtain ⟨rfl, rfl⟩ := h
    refine ⟨by simp only [List.length_append, hlength]; omega, fun more => ?_⟩
    rw [List.append_assoc, List.append_assoc]
    exact readRound_of_accepted md5 obfuscationKey hlength haccepted hbody _

/-- The loop that both kinds of connections read with. -/
def readLoop : StreamLoop Packet where
  round := readRound md5 obfuscationKey
  consumes h := (readRound_eq_next md5 obfuscationKey h).1

theorem readLoop_local : (readLoop md5 obfuscationKey).Local :=
  fun h more => (readRound_eq_next md5 obfuscationKey h).2 more

end ReadLoop

/-- A connection over TCP, without its session manager. -/
structure TcpConnection where
  obfuscationKey : Option (List UInt8)

/-- A connection over TLS, without its session manager. -/
structure TlsConnection where
  obfuscationKey : Option (List UInt8)

/-- `TcpConnection::read_handler` on the bytes that arrive until the stream ends. -/
def TcpConnection.readHandler (md5 : List UInt8 → Digest) (connection : TcpConnection)
    (stream : List UInt8) : LoopRun Packet :=
  (readLoop md5 connection.obfuscationKey).run stream

/-- The read task of `TlsConnection::handle_connection`. -/
def TlsConnection.readTask (md5 : List UInt8 → Digest) (connection : TlsConnection)
    (stream : List UInt8) : LoopRun Packet :=
  (readLoop md5 connection.obfuscationKey).run stream

end TacacsRs.Networking
