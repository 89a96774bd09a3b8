import TacacsRs.Networking.Authorship
import TacacsRs.Networking.Transport
import TacacsRs.Networking.WaitingCalls

/-!
# What passes the socket of a running connection

Beside a running connection stand the frames that its write task has begun to
write and those it has written out, the bytes that its read loop has taken and
the packets that it has handed on. A `write_all` that is going on or has failed
may have put any part of its frame on the wire.
-/

namespace TacacsRs.Networking

open Rust Messages TacacsFlags

/-- The frame that the write task is handing to the network. -/
def WriteTask.frame : WriteTask → List (List UInt8)
  | .writing bytes => [bytes]
  | _ => []

/-- A running connection with the frames it has begun to write and those it has written, the bytes
it has read, and the packets handed on. -/
structure Wire where
  running : RunningConnection
  begun : List (List UInt8)
  written : List (List UInt8)
  consumed : List UInt8
  handed : List Packet

namespace Wire

/-- A connection that has neither written nor read. -/
def new : Wire := ⟨.new, [], [], [], []⟩

section Step

variable (md5 : List UInt8 → Digest) (obfuscationKey : Option (List UInt8))

/-- The frame that the action begins to write, given where it leaves the write task. -/
def begins (writeTask : WriteTask) : RunningConnection.Action → List (List UInt8)
  | .takeOutgoing => writeTask.frame
  | _ => []

/-- The frame that the action finds written, given where the write task stood. -/
def finishes (writeTask : WriteTask) : RunningConnection.Action → List (List UInt8)
  | .written => writeTask.frame
  | _ => []

/-- The bytes of the round of the read loop that the action makes. -/
def takes : RunningConnection.Action → List UInt8
  | .readFrame frame => frame
  | _ => []

/-- The packet that the action gives to `send_message_to_session`. -/
def hands : RunningConnection.Action → List Packet
  | .readFrame frame => (readRound md5 obfuscationKey frame).output.toList
  | _ => []

/-- A step of the connection, with what it writes and reads put last. -/
def step (wire : Wire) (action : RunningConnection.Action) : Option Wire :=
  (wire.running.step md5 obfuscationKey action).map fun running =>
    { running
      begun := wire.begun ++ begins running.writeTask action
      written := wire.written ++ finishes wire.running.writeTask action
      consumed := wire.consumed ++ takes action
      handed := wire.handed ++ hands md5 obfuscationKey action }

end Step

variable {md5 : List UInt8 → Digest} {obfuscationKey : Option (List UInt8)}
  {actions : List RunningConnection.Action} {action : RunningConnection.Action} {wire next : Wire}

/-- The outgoing queue of the connection on the wire. -/
def outgoing (wire : Wire) : PacketChannel := wire.running.connection.sessionManager.outgoing

theorem step_eq_some_iff : wire.step md5 obfuscationKey action = some next ↔
    wire.running.step md5 obfuscationKey action = some next.running ∧
      next.begun = wire.begun ++ begins next.running.writeTask action ∧
      next.written = wire.written ++ finishes wire.running.writeTask action ∧
      next.consumed = wire.consumed ++ takes action ∧
      next.handed = wire.handed ++ hands md5 obfuscationKey action := by
  rw [step, Option.map_eq_some_iff]
  constructor
  · rintro ⟨running, hrunning, rfl⟩
    exact ⟨hrunning, rfl, rfl, rfl, rfl⟩
  · rintro ⟨hrunning, hbegun, hwritten, hconsumed, hhanded⟩
    refine ⟨next.running, hrunning, ?_⟩
    rw [← hbegun, ← hwritten, ← hconsumed, ← hhanded]

/-- What is seen on the wire takes no part in the run. -/
theorem running_of_run (hrun : run (step md5 obfuscationKey) wire actions = some next) :
    run (RunningConnection.step md5 obfuscationKey) wire.running actions = some next.running := by
  induction actions generalizing wire with
  | nil =>
      obtain rfl : wire = next := by simpa using hrun
      rfl
  | cons action actions ih =>
      obtain ⟨mid, hmid, hrest⟩ := run_cons_eq_some_iff.mp hrun
      rw [run_cons_of_step (step_eq_some_iff.mp hmid).1]
      exact ih hrest

section Outbound

variable {md5 : List UInt8 → Digest} {obfuscationKey : Option (List UInt8)}
  {actions : List RunningConnection.Action} {action : RunningConnection.Action} {wire next : Wire}

/-- The frames begun are those of the packets taken from the outgoing queue, in their order, and
all but the last one are written out. -/
structure Framed (md5 : List UInt8 → Digest) (obfuscationKey : Option (List UInt8))
    (wire : Wire) : Prop where
  begun : wire.begun =
    wire.outgoing.received.map fun packet => (sent md5 obfuscationKey packet).toBytes
  unfinished : ∃ unfinished, wire.begun = wire.written ++ unfinished ∧ unfinished.length ≤ 1 ∧
    ((∀ result, wire.running.writeTask ≠ .ended result) →
      unfinished = wire.running.writeTask.frame)

theorem framed_new : Framed md5 obfuscationKey .new where
  begun := rfl
  unfinished := ⟨[], rfl, Nat.zero_le 1, fun _ => rfl⟩

/-- A step that neither takes a packet nor ends a write. -/
theorem Framed.quiet (h : Framed md5 obfuscationKey wire)
    (hreceived : next.outgoing.received = wire.outgoing.received)
    (hbegun : next.begun = wire.begun) (hwritten : next.written = wire.written)
    (hframe : (∀ result, next.running.writeTask ≠ .ended result) →
      (∀ result, wire.running.writeTask ≠ .ended result) ∧
        next.running.writeTask.frame = wire.running.writeTask.frame) :
    Framed md5 obfuscationKey next where
  begun := by rw [hbegun, hreceived, h.begun]
  unfinished := by
    obtain ⟨unfinished, hsplit, hlength, hcurrent⟩ := h.unfinished
    refine ⟨unfinished, by rw [hbegun, hwritten, hsplit], hlength, fun hnext => ?_⟩
    obtain ⟨hbefore, hsame⟩ := hframe hnext
    rw [hsame]
    exact hcurrent hbefore

/-- The write task takes the next packet, and begins to write its frame. -/
theorem Framed.begin (h : Framed md5 obfuscationKey wire) {packet : Packet}
    (hreceiving : wire.running.writeTask = .receiving)
    (hreceived : next.outgoing.received = wire.outgoing.received ++ [packet])
    (hnext : next.running.writeTask = .writing (sent md5 obfuscationKey packet).toBytes)
    (hbegun : next.begun = wire.begun ++ [(sent md5 obfuscationKey packet).toBytes])
    (hwritten : next.written = wire.written) : Framed md5 obfuscationKey next where
  begun := by rw [hbegun, hreceived, List.map_append, h.begun, List.map_singleton]
  unfinished := by
    obtain ⟨unfinished, hsplit, -, hcurrent⟩ := h.unfinished
    have hnone : unfinished = [] := by
      rw [hcurrent (by simp [hreceiving]), hreceiving]
      rfl
    rw [hnone, List.append_nil] at hsplit
    refine ⟨[(sent md5 obfuscationKey packet).toBytes], ?_, Nat.le_refl 1, fun _ => ?_⟩
    · rw [hbegun, hwritten, hsplit]
    · rw [hnext]
      rfl

/-- The write task has its frame written out. -/
theorem Framed.finish (h : Framed md5 obfuscationKey wire) {bytes : List UInt8}
    (hwriting : wire.running.writeTask = .writing bytes)
    (hreceived : next.outgoing.received = wire.outgoing.received)
    (hnext : next.running.writeTask = .receiving) (hbegun : next.begun = wire.begun)
    (hwritten : next.written = wire.written ++ [bytes]) : Framed md5 obfuscationKey next where
  begun := by rw [hbegun, hreceived, h.begun]
  unfinished := by
    obtain ⟨unfinished, hsplit, -, hcurrent⟩ := h.unfinished
    have hbytes : unfinished = [bytes] := by
      rw [hcurrent (by simp [hwriting]), hwriting]
      rfl
    refine ⟨[], ?_, Nat.zero_le 1, fun _ => ?_⟩
    · rw [hbegun, hwritten, hsplit, hbytes, List.append_nil]
    · rw [hnext]
      rfl

theorem Framed.step (h : Framed md5 obfuscationKey wire) (htasks : wire.running.Consistent)
    (hconsistent : ∀ packet ∈ wire.outgoing.sent, packet.SelfConsistent)
    (hnext : wire.step md5 obfuscationKey action = some next) :
    Framed md5 obfuscationKey next := by
  obtain ⟨hstep, hbegun, hwritten, -, -⟩ := step_eq_some_iff.mp hnext
  obtain ⟨running, begun, written, consumed, handed⟩ := next
  dsimp only at hstep hbegun hwritten
  subst hbegun hwritten
  have hdeclared {packet : Packet} {outgoing : PacketChannel}
      (hrecv : wire.outgoing.recv = .received packet outgoing) : packet.SelfConsistent := by
    obtain ⟨-, hqueue, -⟩ := Channel.recv_eq_received_iff.mp hrecv
    apply hconsistent packet
    rw [← Channel.received_append_queue, hqueue]
    simp
  cases RunningConnection.step_eq_some hstep with
  | run hhandler =>
      refine h.quiet rfl (List.append_nil _) (List.append_nil _) fun _ => ?_
      rw [(htasks.notSpawned hhandler).2]
      exact ⟨by simp, rfl⟩
  | owner action connection howner harc howned =>
      refine h.quiet (howned.received_eq ?_) (List.append_nil _) (List.append_nil _)
        fun hnext => ⟨hnext, rfl⟩
      exact RunningConnection.ne_of_byOwner howner rfl
  | completeSession | dropArc | skip | join | joinPanicked =>
      exact h.quiet rfl (List.append_nil _) (List.append_nil _) fun hnext => ⟨hnext, rfl⟩
  | queueRequest index request hopen hroom =>
      exact h.quiet (Channel.received_push hroom) (List.append_nil _) (List.append_nil _)
        fun hnext => ⟨hnext, rfl⟩
  | endRead action error haction =>
      rcases haction with ⟨rest, rfl⟩ | rfl
      · exact h.quiet rfl (List.append_nil _) (List.append_nil _) fun hnext => ⟨hnext, rfl⟩
      · exact h.quiet rfl (List.append_nil _) (List.append_nil _) fun hnext => ⟨hnext, rfl⟩
  | forward frame packet connection hrunning hidle hround hforward =>
      exact h.quiet (hforward.received_eq (by simp)) (List.append_nil _) (List.append_nil _)
        fun hnext => ⟨hnext, rfl⟩
  | finishSend connection hrunning hfinish =>
      exact h.quiet (hfinish.received_eq (by simp)) (List.append_nil _) (List.append_nil _)
        fun hnext => ⟨hnext, rfl⟩
  | takeOutgoing packet obfuscated outgoing connection hreceiving hrecv hobfuscated htake =>
      have hpacket := hdeclared hrecv
      rw [obfuscateOutgoing_eq md5 obfuscationKey
        (Nat.le_of_eq (Packet.selfConsistent_iff.mp hpacket)), Outcome.ok.injEq] at hobfuscated
      subst hobfuscated
      exact h.begin hreceiving (htake.received_of_takeOutgoing hrecv) rfl rfl
        (List.append_nil _)
  | takePanicked packet outgoing connection hreceiving hrecv hpanicked htake =>
      rw [obfuscateOutgoing_eq md5 obfuscationKey
        (Nat.le_of_eq (Packet.selfConsistent_iff.mp (hdeclared hrecv)))] at hpanicked
      simp at hpanicked
  | outgoingClosed hreceiving hclosed =>
      have hdropped := (Channel.recv_eq_closed_iff.mp hclosed).2
      simp [htasks.keepsSender] at hdropped
  | written bytes hwriting =>
      refine h.finish hwriting rfl rfl (List.append_nil _) ?_
      simp [finishes, hwriting, WriteTask.frame]
  | writeFailed bytes error hwriting =>
      refine h.quiet rfl (List.append_nil _) (List.append_nil _) fun hnext => ?_
      exact absurd rfl (hnext (.err error))
  | disableNewSessions writeResult readResult connection hdisabling hdisable =>
      exact h.quiet (hdisable.received_eq (by simp)) (List.append_nil _) (List.append_nil _)
        fun hnext => ⟨hnext, rfl⟩
  | dropConnection connection howned hread hwrite hhandler hdrop =>
      exact h.quiet (hdrop.received_eq (by simp)) (List.append_nil _) (List.append_nil _)
        fun hnext => ⟨hnext, rfl⟩

theorem sent_prefix_of_step (hnext : wire.step md5 obfuscationKey action = some next) :
    wire.outgoing.sent <+: next.outgoing.sent := by
  have hstep := RunningConnection.step_eq_some (step_eq_some_iff.mp hnext).1
  apply hstep.invariant (P := fun connection =>
    wire.outgoing.sent <+: connection.sessionManager.outgoing.sent) _ _ _ List.prefix_rfl
  · exact fun connection action next hkept hstep => hkept.trans hstep.sent_prefix
  · exact fun connection index session hkept _ => hkept
  · exact fun connection request hkept _ _ => hkept.trans (List.prefix_append _ _)

/-- The writer keeps up the frames as long as every queued packet says how long it is. -/
theorem framed_of_run (hrun : run (step md5 obfuscationKey) .new actions = some wire)
    (hconsistent : ∀ packet ∈ wire.outgoing.sent, packet.SelfConsistent) :
    Framed md5 obfuscationKey wire := by
  have hkept : wire.running.Consistent ∧ ((∀ packet ∈ wire.outgoing.sent, packet.SelfConsistent) →
      Framed md5 obfuscationKey wire) := by
    refine invariant_of_run (P := fun wire => wire.running.Consistent ∧
      ((∀ packet ∈ wire.outgoing.sent, packet.SelfConsistent) → Framed md5 obfuscationKey wire))
      ⟨RunningConnection.consistent_new, fun _ => framed_new⟩ ?_ hrun
    rintro mid action next ⟨htasks, hframed⟩ hnext
    refine ⟨htasks.step (RunningConnection.step_eq_some (step_eq_some_iff.mp hnext).1), ?_⟩
    intro hlater
    have hearlier : ∀ packet ∈ mid.outgoing.sent, packet.SelfConsistent :=
      fun packet hpacket => hlater packet ((sent_prefix_of_step hnext).subset hpacket)
    exact (hframed hearlier).step htasks hearlier hnext
  exact hkept.2 hconsistent

/-- A packet that is queued in the clear arrives as it was queued. -/
theorem received_of_contains {packet : Packet}
    (h : packet.header.flags.contains tacPlusUnencryptedFlag = true) :
    received md5 obfuscationKey packet = packet := by
  cases obfuscationKey with
  | none => rfl
  | some key => exact if_pos h

/-- What the calls have queued: accounting packets in the clear that say how long they are. -/
theorem queued_of_run (hrun : run (step md5 obfuscationKey) .new actions = some wire)
    (hunqueued : ∀ index request, .queueRequest index request ∉ actions)
    (hsized : ∀ session ∈ wire.running.connection.sessions, ∀ call ∈ session.calls,
      call.request.toBytes.length < 2 ^ 32) {packet : Packet}
    (hpacket : packet ∈ wire.outgoing.sent) :
    packet.SelfConsistent ∧ packet.header.flags = tacPlusUnencryptedFlag := by
  obtain ⟨authors, hauthors⟩ := RunningConnection.exists_authors hunqueued (running_of_run hrun)
  obtain ⟨place, hplace⟩ := List.mem_iff_getElem?.mp hpacket
  obtain ⟨author, -, session, call, sequenceNumber, hsession, hcall, -, -, hmade⟩ :=
    hauthors.authored.exists_party hplace
  obtain ⟨-, -, hflags, hlength⟩ := Session.requestPacket_eq_ok hmade
  refine ⟨Packet.selfConsistent_iff.mpr (hlength ?_), hflags⟩
  exact hsized session (List.mem_of_getElem? hsession) call (List.mem_of_getElem? hcall)

/-- The frames of packets queued in the clear are read as these packets. -/
theorem read_frames (md5 : List UInt8 → Digest) (obfuscationKey : Option (List UInt8))
    {packets : List Packet} (hpackets : ∀ packet ∈ packets,
    packet.SelfConsistent ∧ packet.header.flags = tacPlusUnencryptedFlag) :
    ((readLoop md5 obfuscationKey).run (packets.map fun packet =>
      (sent md5 obfuscationKey packet).toBytes).flatten).outputs = packets := by
  have hlength : ∀ packet ∈ packets, packet.body.length = packet.header.length.toNat :=
    fun packet hpacket => Packet.selfConsistent_iff.mp (hpackets packet hpacket).1
  have hdeclared : ∀ packet ∈ packets, packet.header.flags.IsDeclared := by
    intro packet hpacket
    rw [(hpackets packet hpacket).2]
    decide
  have harrive := run_written md5 obfuscationKey hlength hdeclared
  rw [writeLoop_eq md5 obfuscationKey hlength] at harrive
  calc _ = packets.map (received md5 obfuscationKey) := harrive
    _ = packets.map id := List.map_congr_left fun packet hpacket => by
      apply received_of_contains
      rw [(hpackets packet hpacket).2]
      decide
    _ = packets := List.map_id packets

/-- The frames written out are those of the first packets queued. -/
theorem Framed.written_eq (h : Framed md5 obfuscationKey wire) :
    wire.written = ((wire.outgoing.sent.take wire.written.length).map fun packet =>
      (sent md5 obfuscationKey packet).toBytes) ∧
        wire.outgoing.taken ≤ wire.written.length + 1 := by
  obtain ⟨unfinished, hsplit, hlength, -⟩ := h.unfinished
  have hcount : wire.outgoing.taken = wire.written.length + unfinished.length := by
    rw [← Channel.length_received, ← List.length_append, ← hsplit, h.begun, List.length_map]
  refine ⟨?_, by omega⟩
  calc wire.written = wire.begun.take wire.written.length := by rw [hsplit, List.take_left]
    _ = _ := by
      rw [h.begun, ← List.map_take, Channel.received, List.take_take, hcount,
        Nat.min_eq_left (Nat.le_add_right _ _)]

/-- What is read of the stream, cut off behind the last frame written out, is all that is written
out and nothing that is not begun. -/
theorem read_between (hrun : run (step md5 obfuscationKey) .new actions = some wire)
    (hunqueued : ∀ index request, .queueRequest index request ∉ actions)
    (hsized : ∀ session ∈ wire.running.connection.sessions, ∀ call ∈ session.calls,
      call.request.toBytes.length < 2 ^ 32)
    {stream : List UInt8} (hwritten : wire.written.flatten <+: stream)
    (hbegun : stream <+: wire.begun.flatten) :
    let read := (TcpConnection.readHandler md5 ⟨obfuscationKey⟩ stream).outputs
    wire.outgoing.sent.take wire.written.length <+: read ∧ read <+: wire.outgoing.received ∧
      wire.outgoing.taken ≤ wire.written.length + 1 := by
  intro read
  have hqueued : ∀ packet ∈ wire.outgoing.sent,
      packet.SelfConsistent ∧ packet.header.flags = tacPlusUnencryptedFlag :=
    fun packet hpacket => queued_of_run hrun hunqueued hsized hpacket
  have hframed := framed_of_run hrun fun packet hpacket => (hqueued packet hpacket).1
  have hreads {packets : List Packet} (hstart : packets <+: wire.outgoing.sent) :=
    read_frames md5 obfuscationKey fun packet hpacket => hqueued packet (hstart.subset hpacket)
  have hgrow (first more : List UInt8) := StreamLoop.Local.outputs_prefix
    (readLoop_local md5 obfuscationKey) first more
  obtain ⟨hfirst, hlast⟩ := hframed.written_eq
  refine ⟨?_, ?_, hlast⟩
  · obtain ⟨more, rfl⟩ := hwritten
    have hdone := hreads (List.take_prefix wire.written.length wire.outgoing.sent)
    rw [← hfirst] at hdone
    exact hdone ▸ hgrow wire.written.flatten more
  · obtain ⟨more, hmore⟩ := hbegun
    have hall := hreads (List.take_prefix wire.outgoing.taken wire.outgoing.sent)
    rw [← Channel.received, ← hframed.begun, ← hmore] at hall
    exact hall ▸ hgrow stream more

/-- What is queued and not read is in the queue, but for one packet. -/
theorem exists_missed {read : List Packet}
    (hwritten : wire.outgoing.sent.take wire.written.length <+: read)
    (hread : read <+: wire.outgoing.received)
    (htaken : wire.outgoing.taken ≤ wire.written.length + 1) :
    ∃ missed, wire.outgoing.sent = read ++ missed ∧
      missed.length ≤ wire.outgoing.queue.length + 1 := by
  obtain ⟨missed, hmissed⟩ := hread.trans (List.take_prefix _ _)
  have htotal : wire.outgoing.taken + wire.outgoing.queue.length = read.length + missed.length := by
    rw [← List.length_append, hmissed, ← Channel.length_received, ← List.length_append,
      Channel.received_append_queue]
  have hlength := hwritten.length_le
  rw [List.length_take, ← hmissed, List.length_append] at hlength
  exact ⟨missed, hmissed.symm, by omega⟩

/-- The packets queued were made by one call each. -/
theorem exists_authors (hrun : run (step md5 obfuscationKey) .new actions = some wire)
    (hunqueued : ∀ index request, .queueRequest index request ∉ actions) :
    ∃ authors, Attributed wire.running.connection.Wrote authors wire.outgoing.sent := by
  obtain ⟨authors, hauthors⟩ := RunningConnection.exists_authors hunqueued (running_of_run hrun)
  exact ⟨authors, hauthors.authored⟩

/-- Where nothing is queued by hand, a peer with the same key that reads what is on the wire, cut
off at any byte behind the last frame written out, reads the packets that the calls have queued, in
their order, each as its call made it and each from another call; it misses at most the one that is
being written and those that are still in the queue. -/
theorem peer_reads_what_was_queued (hrun : run (step md5 obfuscationKey) .new actions = some wire)
    (hunqueued : ∀ index request, .queueRequest index request ∉ actions)
    (hsized : ∀ session ∈ wire.running.connection.sessions, ∀ call ∈ session.calls,
      call.request.toBytes.length < 2 ^ 32)
    {stream : List UInt8} (hwritten : wire.written.flatten <+: stream)
    (hbegun : stream <+: wire.begun.flatten) :
    let read := (TcpConnection.readHandler md5 ⟨obfuscationKey⟩ stream).outputs
    wire.outgoing.sent.take wire.written.length <+: read ∧ read <+: wire.outgoing.received ∧
      wire.outgoing.taken ≤ wire.written.length + 1 ∧
      ∃ missed authors, wire.outgoing.sent = read ++ missed ∧
        missed.length ≤ wire.outgoing.queue.length + 1 ∧
        Attributed wire.running.connection.Wrote authors wire.outgoing.sent := by
  obtain ⟨hfirst, hread, hlast⟩ := read_between hrun hunqueued hsized hwritten hbegun
  obtain ⟨missed, hsent, hmissed⟩ := exists_missed hfirst hread hlast
  obtain ⟨authors, hauthors⟩ := exists_authors hrun hunqueued
  exact ⟨hfirst, hread, hlast, missed, authors, hsent, hmissed, hauthors⟩

/-- A session with the id `sessionId` is created. -/
def creationRun (call : Nat) (sessionId : UInt32) : List Connection.Action :=
  [.manage .createSession, .manage (.canCreateSessions call),
    .manage (.createChannel call [sessionId])]

/-- A call queues its request. -/
def requestRun (index callIndex : Nat) : List Connection.Action :=
  .sendAccountingRequest index Connection.requestOfCall ::
    [.checkSender, .joinRead, .checkReceiver, .checkComplete, .draw, .send].map
      (.poll index callIndex)

/-- One session makes two calls and another makes one; the first request is written, the next is
being written and the last is in the queue. -/
def sendingRun : List RunningConnection.Action :=
  [.run] ++ (creationRun 0 7 ++ creationRun 1 9 ++ requestRun 0 0 ++ requestRun 1 0 ++
    requestRun 0 1).map .owner ++ [.takeOutgoing, .written, .takeOutgoing]

theorem unqueued_sendingRun (index : Nat) (request : Packet) :
    .queueRequest index request ∉ sendingRun := by
  simp [sendingRun, creationRun, requestRun]

/-- The peer of `sendingRun` has the first request and, of the second, the header and one byte of
the body. -/
theorem peer_reads_what_was_queued_sendingRun :
    ∃ wire, run (step RunningConnection.noDigest (some [107])) .new sendingRun = some wire ∧
      let read := (TcpConnection.readHandler RunningConnection.noDigest ⟨some [107]⟩
        (wire.begun.flatten.take 72)).outputs
      wire.written.length = 1 ∧ wire.outgoing.sent.length = 3 ∧
        wire.outgoing.sent.take wire.written.length <+: read ∧ read <+: wire.outgoing.received ∧
        wire.outgoing.taken ≤ wire.written.length + 1 ∧
        ∃ missed authors, wire.outgoing.sent = read ++ missed ∧
          missed.length ≤ wire.outgoing.queue.length + 1 ∧
          Attributed wire.running.connection.Wrote authors wire.outgoing.sent := by
  have hfacts : (run (step RunningConnection.noDigest (some [107])) .new sendingRun).map
      (fun wire => (wire.outgoing.sent.length, wire.written.length,
        wire.written.flatten.isPrefixOf (wire.begun.flatten.take 72),
        wire.running.connection.sessions.all fun session =>
          session.calls.all fun call => call.request.toBytes.length < 2 ^ 32)) =
      some (3, 1, true, true) := by
    decide +kernel
  obtain ⟨wire, hrun, hfields⟩ := Option.map_eq_some_iff.mp hfacts
  simp only [Prod.mk.injEq, List.all_eq_true, decide_eq_true_eq, List.isPrefixOf_iff_prefix]
    at hfields
  obtain ⟨hsent, hwritten, hstart, hsized⟩ := hfields
  exact ⟨wire, hrun, hwritten, hsent, peer_reads_what_was_queued hrun unqueued_sendingRun hsized
    hstart (List.take_prefix 72 _)⟩

end Outbound

end Wire

end TacacsRs.Networking
