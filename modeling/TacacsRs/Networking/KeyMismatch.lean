import TacacsRs.Networking.ReadHandler

/-!
# Readers with different keys

The key is used on the body of a frame that has been read, and decides neither
where a frame starts nor where the loop ends. Readers with different keys, or
without one, stay in step on every stream.
-/

namespace TacacsRs.Networking

open Rust Messages TacacsFlags

/-- The packets have the same header, but for the flags, and bodies of the same length. -/
def SameFrame (packet packet' : Packet) : Prop :=
  packet'.header = { packet.header with flags := packet'.header.flags } ∧
    packet'.body.length = packet.body.length

section Keys

variable (md5 : List UInt8 → Digest) (obfuscationKey obfuscationKey' : Option (List UInt8))

theorem readRound_eq_map (stream : List UInt8) :
    readRound md5 obfuscationKey stream =
      (readRound md5 none stream).map (received md5 obfuscationKey) := by
  rcases readRound_cases md5 obfuscationKey stream with
    ⟨hshort, hstop⟩ | ⟨headerBuffer, rest, rfl, hlength, hrejected | ⟨header, haccepted,
      hrest | ⟨body, tail, rfl, hbody⟩⟩⟩
  · rw [hstop, readRound_of_lt md5 none hshort]
    rfl
  · rw [readRound_of_rejected md5 obfuscationKey hlength hrejected,
      readRound_of_rejected md5 none hlength hrejected]
    rfl
  · rw [readRound_of_truncated md5 obfuscationKey hlength haccepted hrest,
      readRound_of_truncated md5 none hlength haccepted hrest]
    rfl
  · rw [readRound_of_accepted md5 obfuscationKey hlength haccepted hbody,
      readRound_of_accepted md5 none hlength haccepted hbody]
    rfl

/-- Reading with a key is reading without one and converting each packet by itself. -/
theorem readHandler_eq_map (stream : List UInt8) :
    TcpConnection.readHandler md5 ⟨obfuscationKey⟩ stream =
      (TcpConnection.readHandler md5 ⟨none⟩ stream).map (received md5 obfuscationKey) :=
  StreamLoop.run_map (received md5 obfuscationKey) (readRound_eq_map md5 obfuscationKey) stream

/-- A packet that was read has the body that its header announces. -/
theorem body_length_of_readRound {stream rest : List UInt8} {packet : Packet}
    (h : readRound md5 none stream = .next (some packet) rest) :
    packet.body.length = packet.header.length.toNat := by
  rcases readRound_cases md5 none stream with
    ⟨_, hstop⟩ | ⟨headerBuffer, rest, rfl, hlength, hrejected | ⟨header, haccepted,
      hrest | ⟨body, tail, rfl, hbody⟩⟩⟩
  · simp [hstop] at h
  · simp [readRound_of_rejected md5 none hlength hrejected] at h
  · simp [readRound_of_truncated md5 none hlength haccepted hrest] at h
  · rw [readRound_of_accepted md5 none hlength haccepted hbody, Round.next.injEq,
      Option.some.injEq] at h
    obtain ⟨rfl, -⟩ := h
    exact hbody

theorem received_header (packet : Packet) :
    (received md5 obfuscationKey packet).header =
      { packet.header with flags := (received md5 obfuscationKey packet).header.flags } := by
  cases obfuscationKey with
  | none => rfl
  | some key =>
      unfold received
      dsimp only
      split
      · rfl
      · rfl

theorem received_body_length {packet : Packet}
    (hlength : packet.body.length = packet.header.length.toNat) :
    (received md5 obfuscationKey packet).body.length = packet.body.length := by
  cases obfuscationKey with
  | none => rfl
  | some key =>
      unfold received
      dsimp only
      split
      · rfl
      · simp [hlength]

/-- Two readers of the same packet with different keys. -/
theorem sameFrame_received {packet : Packet}
    (hlength : packet.body.length = packet.header.length.toNat) :
    SameFrame (received md5 obfuscationKey packet) (received md5 obfuscationKey' packet) := by
  constructor
  · rw [received_header md5 obfuscationKey, received_header md5 obfuscationKey']
  · rw [received_body_length md5 obfuscationKey' hlength,
      received_body_length md5 obfuscationKey hlength]

/-- On every stream, readers with different keys start to read at the same places and end in the
same way, and they read packets that differ in their flags and their bodies only, each body as long
as the other. -/
theorem framing_is_independent_of_the_key (stream : List UInt8) :
    let run := TcpConnection.readHandler md5 ⟨obfuscationKey⟩ stream
    let run' := TcpConnection.readHandler md5 ⟨obfuscationKey'⟩ stream
    run'.rounds = run.rounds ∧ run'.outcome = run.outcome ∧
      List.Forall₂ SameFrame run.outputs run'.outputs := by
  intro run run'
  have hlength : ∀ packet ∈ (TcpConnection.readHandler md5 ⟨none⟩ stream).outputs,
      packet.body.length = packet.header.length.toNat :=
    StreamLoop.forall_outputs (fun _ _ _ hround => body_length_of_readRound md5 hround) stream
  have hrun : run = _ := readHandler_eq_map md5 obfuscationKey stream
  have hrun' : run' = _ := readHandler_eq_map md5 obfuscationKey' stream
  rw [hrun, hrun']
  refine ⟨rfl, rfl, ?_⟩
  rw [LoopRun.map, LoopRun.map, List.forall₂_map_left_iff, List.forall₂_map_right_iff,
    List.forall₂_same]
  intro packet hpacket
  exact sameFrame_received md5 obfuscationKey obfuscationKey' (hlength packet hpacket)

end Keys

end TacacsRs.Networking
