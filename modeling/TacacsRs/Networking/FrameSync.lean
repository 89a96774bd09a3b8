import TacacsRs.Networking.ReadHandler

/-!
# Synchronisation of the read loop with the frames of the peer

The loop reads the body of every frame whose header it accepts. After a header
that it rejects it continues without reading the body, so the next round takes
the bytes of that body for a header.
-/

namespace TacacsRs.Networking

open Rust Messages

/-- A header of twelve bytes and as many body bytes as its last four bytes declare. -/
structure Frame where
  header : List UInt8
  body : List UInt8
  length_header : header.length = 12
  length_body : body.length = declaredLength header

namespace Frame

/-- The frame as it is on the stream. -/
def bytes (frame : Frame) : List UInt8 := frame.header ++ frame.body

/-- The packet in a frame, if its header is one that `Header::from_bytes` accepts. -/
def packet? (frame : Frame) : Option Packet :=
  match Header.fromBytes frame.header with
  | .ok header => some ⟨header, frame.body⟩
  | _ => none

theorem packet?_eq_none_iff {frame : Frame} :
    frame.packet? = none ↔ ¬ ∃ header, Header.fromBytes frame.header = .ok header := by
  unfold packet?
  cases h : Header.fromBytes frame.header <;> simp

theorem packet?_eq_some_iff {frame : Frame} {packet : Packet} :
    frame.packet? = some packet ↔
      Header.fromBytes frame.header = .ok packet.header ∧ packet.body = frame.body := by
  obtain ⟨header, body⟩ := packet
  unfold packet?
  cases h : Header.fromBytes frame.header <;> simp [eq_comm]

/-- The declared length of an accepted header is its length field. -/
theorem length_body_of_packet? {frame : Frame} {packet : Packet}
    (h : frame.packet? = some packet) : packet.body.length = packet.header.length.toNat := by
  obtain ⟨hheader, hbody⟩ := packet?_eq_some_iff.mp h
  obtain ⟨-, rest, hbytes⟩ := Header.fromBytes_eq_ok_iff.mp hheader
  rw [hbody, frame.length_body, hbytes, declaredLength_toBytes_append]

theorem length_bytes (frame : Frame) : frame.bytes.length = 12 + frame.body.length := by
  rw [bytes, List.length_append, frame.length_header]

end Frame

/-- The stream that a list of frames makes. -/
def frameStream (frames : List Frame) : List UInt8 := frames.flatMap Frame.bytes

@[simp] theorem frameStream_nil : frameStream [] = [] := rfl

@[simp] theorem frameStream_cons (frame : Frame) (frames : List Frame) :
    frameStream (frame :: frames) = frame.header ++ (frame.body ++ frameStream frames) := by
  simp [frameStream, Frame.bytes]

theorem length_frameStream_le_of_suffix {frames after : List Frame} (h : after <:+ frames) :
    (frameStream after).length ≤ (frameStream frames).length := by
  obtain ⟨before, rfl⟩ := h
  simp [frameStream]

/-- Every header that the loop reads is the header of one of the frames. -/
def InSync (frames : List Frame) (run : LoopRun Packet) : Prop :=
  ∀ visited ∈ run.rounds, tacacsHeaderLength ≤ visited.length →
    ∃ after, after <:+ frames ∧ visited = frameStream after

/-- A rejected frame has no body, or too short a one for a header and nothing follows it. -/
def NoBodyLeftBehind : List Frame → Prop
  | [] => True
  | frame :: frames =>
      (frame.packet? = none →
        frame.body = [] ∨ frames = [] ∧ frame.body.length < tacacsHeaderLength) ∧
      NoBodyLeftBehind frames

section Loop

variable (md5 : List UInt8 → Digest) (obfuscationKey : Option (List UInt8))

theorem run_accepted {frame : Frame} {packet : Packet} (h : frame.packet? = some packet)
    (rest : List UInt8) :
    (readLoop md5 obfuscationKey).run (frame.header ++ (frame.body ++ rest)) =
      let later := (readLoop md5 obfuscationKey).run rest
      ⟨(frame.header ++ (frame.body ++ rest)) :: later.rounds,
        received md5 obfuscationKey packet :: later.outputs, later.outcome⟩ := by
  have hlength := Frame.length_body_of_packet? h
  obtain ⟨hheader, hbody⟩ := Frame.packet?_eq_some_iff.mp h
  rw [← hbody, StreamLoop.run_of_next (readRound_of_accepted md5 obfuscationKey
    frame.length_header hheader hlength rest)]
  rfl

theorem run_rejected {frame : Frame} (h : frame.packet? = none) (rest : List UInt8) :
    (readLoop md5 obfuscationKey).run (frame.header ++ rest) =
      let later := (readLoop md5 obfuscationKey).run rest
      ⟨(frame.header ++ rest) :: later.rounds, later.outputs, later.outcome⟩ := by
  rw [StreamLoop.run_of_next (readRound_of_rejected md5 obfuscationKey frame.length_header
    (Frame.packet?_eq_none_iff.mp h) rest)]
  rfl

theorem run_of_lt {stream : List UInt8} (h : stream.length < tacacsHeaderLength) :
    (readLoop md5 obfuscationKey).run stream =
      ⟨[stream], [], .err (.msg "early eof")⟩ :=
  StreamLoop.run_of_stop (readRound_of_lt md5 obfuscationKey h)

theorem InSync.cons {frame : Frame} {frames : List Frame} {later : LoopRun Packet}
    (h : InSync frames later) (outputs : List Packet) (outcome : Outcome Unit) :
    InSync (frame :: frames)
      ⟨frameStream (frame :: frames) :: later.rounds, outputs, outcome⟩ := by
  intro visited hvisited hlong
  rcases List.mem_cons.mp hvisited with rfl | hlater
  · exact ⟨frame :: frames, List.suffix_rfl, rfl⟩
  · obtain ⟨after, hafter, hstream⟩ := h visited hlater hlong
    exact ⟨after, hafter.trans (List.suffix_cons frame frames), hstream⟩

/-- Without bodies left behind the loop stays at the frames and hands on their packets. -/
theorem run_of_noBodyLeftBehind {frames : List Frame} (h : NoBodyLeftBehind frames) :
    let run := (readLoop md5 obfuscationKey).run (frameStream frames)
    run.outputs = (frames.filterMap Frame.packet?).map (received md5 obfuscationKey) ∧
      InSync frames run := by
  induction frames with
  | nil =>
      rw [frameStream_nil, run_of_lt md5 obfuscationKey (by decide)]
      refine ⟨rfl, ?_⟩
      intro visited hvisited hlong
      rw [List.mem_singleton.mp hvisited] at hlong
      exact absurd hlong (by decide)
  | cons frame frames ih =>
      obtain ⟨hframe, hframes⟩ := h
      obtain ⟨houtputs, hsync⟩ := ih hframes
      cases hpacket : frame.packet? with
      | some packet =>
          rw [frameStream_cons, run_accepted md5 obfuscationKey hpacket,
            List.filterMap_cons_some hpacket, List.map_cons, ← houtputs, ← frameStream_cons]
          exact ⟨rfl, hsync.cons _ _⟩
      | none =>
          rw [List.filterMap_cons_none hpacket, ← houtputs]
          rcases hframe hpacket with hempty | ⟨rfl, hshort⟩
          · have hstream : frameStream (frame :: frames) = frame.header ++ frameStream frames := by
              rw [frameStream_cons, hempty, List.nil_append]
            rw [hstream, run_rejected md5 obfuscationKey hpacket, ← hstream]
            exact ⟨rfl, hsync.cons _ _⟩
          · have hstream : frameStream [frame] = frame.header ++ frame.body := by simp
            rw [hstream, run_rejected md5 obfuscationKey hpacket,
              run_of_lt md5 obfuscationKey hshort, frameStream_nil,
              run_of_lt md5 obfuscationKey (by decide), ← hstream]
            refine ⟨rfl, InSync.cons ?_ _ _⟩
            intro visited hvisited hlong
            rw [List.mem_singleton.mp hvisited] at hlong
            exact absurd hlong (Nat.not_le.mpr hshort)

/-- A loop that only reads headers of frames does so on what follows the first round. -/
theorem InSync.tail {frame : Frame} {frames : List Frame} {stream : List UInt8}
    {outputs : List Packet} {outcome : Outcome Unit}
    (h : InSync (frame :: frames)
      ⟨frameStream (frame :: frames) :: ((readLoop md5 obfuscationKey).run stream).rounds,
        outputs, outcome⟩)
    (hstream : stream.length < (frameStream (frame :: frames)).length) :
    InSync frames ((readLoop md5 obfuscationKey).run stream) := by
  intro visited hvisited hlong
  obtain ⟨after, hafter, rfl⟩ := h visited (List.mem_cons_of_mem _ hvisited) hlong
  have hle := StreamLoop.length_le_of_mem_rounds hvisited
  rcases List.suffix_cons_iff.mp hafter with rfl | hsuffix
  · omega
  · exact ⟨after, hsuffix, rfl⟩

theorem noBodyLeftBehind_of_inSync {frames : List Frame}
    (h : InSync frames ((readLoop md5 obfuscationKey).run (frameStream frames))) :
    NoBodyLeftBehind frames := by
  induction frames with
  | nil => trivial
  | cons frame frames ih =>
      rw [frameStream_cons] at h
      cases hpacket : frame.packet? with
      | some packet =>
          rw [run_accepted md5 obfuscationKey hpacket, ← frameStream_cons] at h
          refine ⟨by simp [hpacket], ih (InSync.tail md5 obfuscationKey h ?_)⟩
          rw [frameStream_cons]
          simp only [List.length_append, frame.length_header]
          omega
      | none =>
          rw [run_rejected md5 obfuscationKey hpacket, ← frameStream_cons] at h
          have htail := InSync.tail md5 obfuscationKey h (by
            rw [frameStream_cons]
            simp only [List.length_append, frame.length_header]
            omega)
          rcases Nat.lt_or_ge (frame.body ++ frameStream frames).length tacacsHeaderLength with
            hshort | hlong
          · cases frames with
            | nil => exact ⟨fun _ => .inr ⟨rfl, by simpa using hshort⟩, trivial⟩
            | cons next frames =>
                simp only [frameStream_cons, List.length_append, next.length_header,
                  tacacsHeaderLength] at hshort
                omega
          · obtain ⟨after, hafter, hbytes⟩ := htail _ (StreamLoop.mem_rounds_self _ _) hlong
            have hle := length_frameStream_le_of_suffix hafter
            rw [← hbytes, List.length_append] at hle
            have hempty : frame.body = [] := List.length_eq_zero_iff.mp (by omega)
            rw [hempty, List.nil_append] at htail
            exact ⟨fun _ => .inl hempty, ih htail⟩

/-- The packets of the accepted frames, in order and no others, are what the loop hands on,
and it takes no other bytes for a header. -/
def Synchronised (frames : List Frame) (run : LoopRun Packet) : Prop :=
  run.outputs = (frames.filterMap Frame.packet?).map (received md5 obfuscationKey) ∧
    InSync frames run

theorem synchronised_readLoop_iff (frames : List Frame) :
    Synchronised md5 obfuscationKey frames
        ((readLoop md5 obfuscationKey).run (frameStream frames)) ↔
      NoBodyLeftBehind frames := by
  constructor
  · rintro ⟨-, hsync⟩
    exact noBodyLeftBehind_of_inSync md5 obfuscationKey hsync
  · intro h
    exact run_of_noBodyLeftBehind md5 obfuscationKey h

/-- Either connection stays synchronised with the frames of its peer if and only if no
rejected frame leaves bytes of its body behind that the loop then reads as a header. -/
theorem reader_synchronised_iff (frames : List Frame) :
    (Synchronised md5 obfuscationKey frames
        (TcpConnection.readHandler md5 ⟨obfuscationKey⟩ (frameStream frames)) ↔
      NoBodyLeftBehind frames) ∧
    (Synchronised md5 obfuscationKey frames
        (TlsConnection.readTask md5 ⟨obfuscationKey⟩ (frameStream frames)) ↔
      NoBodyLeftBehind frames) :=
  ⟨synchronised_readLoop_iff md5 obfuscationKey frames,
    synchronised_readLoop_iff md5 obfuscationKey frames⟩

end Loop

/-- The header of a reply without a body, as it may stand inside the body of another frame. -/
def forgedHeader : Header :=
  { majorVersion := .tacacsPlusMajor1, minorVersion := .tacacsPlusMinorVerDefault,
    tacacsType := .tacPlusAccounting, seqNo := 2, flags := TacacsFlags.tacPlusUnencryptedFlag,
    sessionId := 7, length := 0 }

/-- A frame of unknown type whose body is the header of a reply. -/
def forgingFrame : Frame where
  header := [0xc0, 0xff, 2, 1, 0, 0, 0, 9, 0, 0, 0, 12]
  body := forgedHeader.toBytes
  length_header := by decide
  length_body := by decide

/-- The body of a rejected frame is handed on as a packet of session 7. -/
theorem readHandler_forgingFrame :
    ([forgingFrame].filterMap Frame.packet?) = [] ∧
      ∀ md5 : List UInt8 → Digest,
        (TcpConnection.readHandler md5 ⟨none⟩ (frameStream [forgingFrame])).outputs =
          [⟨forgedHeader, []⟩] := by
  refine ⟨by decide, ?_⟩
  intro md5
  have hrejected : forgingFrame.packet? = none := by decide
  have hheader : Header.fromBytes forgedHeader.toBytes = .ok forgedHeader := by decide
  have hbody : ([] : List UInt8).length = forgedHeader.length.toNat := rfl
  have hround := readRound_of_accepted md5 none (by decide) hheader hbody []
  rw [List.nil_append, List.append_nil] at hround
  have hstream : frameStream [forgingFrame] = forgingFrame.header ++ forgedHeader.toBytes := by
    decide
  rw [TcpConnection.readHandler, hstream, run_rejected md5 none hrejected]
  dsimp only
  rw [StreamLoop.run_of_next hround, run_of_lt md5 none (by decide)]
  rfl

end TacacsRs.Networking
