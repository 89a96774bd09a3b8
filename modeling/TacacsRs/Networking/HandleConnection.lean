import TacacsRs.Messages.ConversionAgreement
import TacacsRs.Networking.SessionView
import TacacsRs.Networking.WriteHandler

/-!
# A running connection

`run` spawns `handle_connection`, which spawns the write task and the read task
and joins them. The write task owns the receiver of the outgoing queue, the read
task hands what it reads to the session manager. Both hold an `Arc` of the
connection, as do the handler and the owner, and the connection is freed when
the last of them is dropped. TCP and TLS connections do the same.

The network decides which bytes arrive, when the stream ends and how a write
ends; the owner creates and drops sessions, makes calls on them, completes them,
puts packets of his own on the outgoing queue and drops his `Arc`. All the rest
is done by the two tasks and the handler. Owners leave the receivers and the
counters of their sessions, which are public as well, to `send_accounting_request`.
-/

namespace TacacsRs.Networking

open Rust Messages

/-- A read task that is not over reads, or hands a packet to the session manager. -/
inductive ReadTask where
  | notSpawned
  | running
  | ended (result : Outcome Unit)
  deriving DecidableEq

/-- A write task that is not over waits for a packet or for the end of its `write_all`. -/
inductive WriteTask where
  | notSpawned
  | receiving
  | writing (bytes : List UInt8)
  | ended (result : Outcome Unit)
  deriving DecidableEq

/-- Where `handle_connection` stands. -/
inductive Handler where
  | notCalled
  | joining
  | disabling (writeResult readResult : Outcome Unit)
  | returned (result : Outcome Unit)
  deriving DecidableEq

/-- There is no read task that holds the connection. -/
def ReadTask.isOver : ReadTask → Bool
  | .running => false
  | _ => true

/-- There is no write task that holds the connection. -/
def WriteTask.isOver : WriteTask → Bool
  | .receiving => false
  | .writing _ => false
  | _ => true

/-- There is no handler that holds the connection. -/
def Handler.isOver : Handler → Bool
  | .joining => false
  | .disabling _ _ => false
  | _ => true

/-- What the owner of a connection does with it and with its sessions. -/
def Connection.Action.byOwner : Connection.Action → Bool
  | .manage .createSession => true
  | .manage (.canCreateSessions _) => true
  | .manage (.createChannel _ _) => true
  | .manage (.cancelCreation _) => true
  | .sendAccountingRequest _ _ => true
  | .poll _ _ _ => true
  | .dropSession _ => true
  | _ => false

/-- Calls of `create_session` borrow an `Arc` of the connection. -/
def Connection.Action.borrowsArc : Connection.Action → Bool
  | .manage _ => true
  | _ => false

namespace Connection

section Frame

variable {connection next : Connection} {action : Action}

theorem Step.canAcceptNewSessions_eq (h : Step connection action next)
    (haction : action ≠ .manage .disableNewSessions) :
    next.sessionManager.canAcceptNewSessions =
      connection.sessionManager.canAcceptNewSessions := by
  cases h with
  | manage action manager event hpresent howner hstep =>
      cases hstep with
      | disable => exact absurd rfl haction
      | create | permit | refuse | cancel | register | lookup | reject | deliver | fail | receive
      | drop => rfl
  | start | poll | dropSession | takeOutgoing | closeOutgoing | dropConnection => rfl

theorem Step.sending_eq_none (h : Step connection action next)
    (hidle : connection.sessionManager.sending = none)
    (haction : ∀ packet, action ≠ .manage (.sendMessageToSession packet)) :
    next.sessionManager.sending = none := by
  cases h with
  | manage action manager event hpresent howner hstep =>
      cases hstep with
      | lookup packet => exact absurd rfl (haction packet)
      | deliver | fail => rfl
      | create | permit | refuse | cancel | disable | register | reject | receive | drop =>
          exact hidle
  | start | poll | dropSession | takeOutgoing | closeOutgoing | dropConnection => exact hidle

/-- A packet that awaits its send did so before, or was just looked up. -/
theorem Step.underway_cases (h : Step connection action next) {packet : Packet} {index : Nat}
    (hsending : next.sessionManager.sending = some (packet, index)) :
    connection.sessionManager.sending = some (packet, index) ∨
      action = .manage (.sendMessageToSession packet) := by
  cases h with
  | manage action manager event hpresent howner hstep =>
      cases hstep with
      | lookup found target =>
          obtain ⟨rfl, -⟩ := Prod.mk.inj (Option.some.inj hsending)
          exact .inr rfl
      | deliver | fail => simp at hsending
      | create | permit | refuse | cancel | disable | register | reject | receive | drop =>
          exact .inl hsending
  | start | poll | dropSession | takeOutgoing | closeOutgoing | dropConnection =>
      exact .inl hsending

theorem Step.dropped_eq (h : Step connection action next) (haction : action ≠ .dropConnection) :
    next.dropped = connection.dropped := by
  cases h with
  | manage | start | poll | dropSession | takeOutgoing | closeOutgoing => rfl
  | dropConnection => exact absurd rfl haction

/-- Nothing but the writer and the senders of packets touches the outgoing queue. -/
theorem Step.outgoing_cases (h : Step connection action next) :
    next.sessionManager.outgoing = connection.sessionManager.outgoing ∨
      (∃ packet, connection.sessionManager.outgoing.send packet =
        .sent next.sessionManager.outgoing) ∨
      (action = .takeOutgoing ∧ ∃ hnonempty,
        next.sessionManager.outgoing = connection.sessionManager.outgoing.pop hnonempty) ∨
      action = .closeOutgoing ∧
        next.sessionManager.outgoing = connection.sessionManager.outgoing.dropReceiver := by
  cases h with
  | manage action manager event hpresent howner hstep => exact .inl hstep.outgoing_eq
  | poll index callIndex poll session polled sessionChannel duplexChannel hsession hchannel
      hpoll =>
      obtain ⟨call, -, hpolled⟩ := Session.poll_eq_some hpoll
      exact hpolled.sender_cases.imp_right .inl
  | takeOutgoing hopen hnonempty => exact .inr (.inr (.inl ⟨rfl, hnonempty, rfl⟩))
  | closeOutgoing => exact .inr (.inr (.inr ⟨rfl, rfl⟩))
  | start | dropSession | dropConnection => exact .inl rfl

theorem Step.outgoing_receiverDropped_eq (h : Step connection action next)
    (haction : action ≠ .closeOutgoing) :
    next.sessionManager.outgoing.receiverDropped =
      connection.sessionManager.outgoing.receiverDropped := by
  rcases h.outgoing_cases with hsame | ⟨packet, hsend⟩ | ⟨-, hnonempty, hpop⟩ | ⟨hclose, -⟩
  · rw [hsame]
  · obtain ⟨-, hroom, hpush⟩ := Channel.send_eq_sent_iff.mp hsend
    rw [hpush]
    rfl
  · rw [hpop]
    rfl
  · exact absurd hclose haction

/-- The manager keeps a sender of the outgoing queue. -/
theorem Step.outgoing_sendersDropped_eq (h : Step connection action next) :
    next.sessionManager.outgoing.sendersDropped =
      connection.sessionManager.outgoing.sendersDropped := by
  rcases h.outgoing_cases with hsame | ⟨packet, hsend⟩ | ⟨-, hnonempty, hpop⟩ | ⟨-, hclose⟩
  · rw [hsame]
  · obtain ⟨-, hroom, hpush⟩ := Channel.send_eq_sent_iff.mp hsend
    rw [hpush]
    rfl
  · rw [hpop]
    rfl
  · rw [hclose]
    rfl

theorem Step.outgoing_queue_ne_nil (h : Step connection action next)
    (haction : action ≠ .takeOutgoing)
    (hqueue : connection.sessionManager.outgoing.queue ≠ []) :
    next.sessionManager.outgoing.queue ≠ [] := by
  rcases h.outgoing_cases with hsame | ⟨packet, hsend⟩ | ⟨htake, -⟩ | ⟨-, hclose⟩
  · rwa [hsame]
  · obtain ⟨-, hroom, hpush⟩ := Channel.send_eq_sent_iff.mp hsend
    rw [hpush, Channel.queue_push]
    simp
  · exact absurd htake haction
  · rw [hclose]
    exact hqueue

theorem Step.sent_prefix (h : Step connection action next) :
    connection.sessionManager.outgoing.sent <+: next.sessionManager.outgoing.sent := by
  rcases h.outgoing_cases with hsame | ⟨packet, hsend⟩ | ⟨-, hnonempty, hpop⟩ | ⟨-, hclose⟩
  · exact hsame ▸ List.prefix_rfl
  · obtain ⟨-, hroom, hpush⟩ := Channel.send_eq_sent_iff.mp hsend
    rw [hpush]
    exact List.prefix_append _ _
  · rw [hpop]
    exact List.prefix_rfl
  · rw [hclose]
    exact List.prefix_rfl

/-- Only the writer takes packets from the outgoing queue. -/
theorem Step.received_eq (h : Step connection action next) (haction : action ≠ .takeOutgoing) :
    next.sessionManager.outgoing.received = connection.sessionManager.outgoing.received := by
  rcases h.outgoing_cases with hsame | ⟨packet, hsend⟩ | ⟨htake, -⟩ | ⟨-, hclose⟩
  · rw [hsame]
  · obtain ⟨-, hroom, hpush⟩ := Channel.send_eq_sent_iff.mp hsend
    rw [hpush, Channel.received_push]
  · exact absurd htake haction
  · rw [hclose, Channel.received_dropReceiver]

theorem Step.received_of_takeOutgoing (h : Step connection .takeOutgoing next) {packet : Packet}
    {outgoing : PacketChannel}
    (hrecv : connection.sessionManager.outgoing.recv = .received packet outgoing) :
    next.sessionManager.outgoing.received =
      connection.sessionManager.outgoing.received ++ [packet] := by
  cases h with
  | takeOutgoing hopen hnonempty =>
      obtain ⟨-, hreceived⟩ := Channel.received_of_recv hrecv
      obtain ⟨_, -, hpop⟩ := Channel.recv_eq_received_iff.mp hrecv
      rw [hpop] at hreceived
      exact hreceived

/-- Only a call of `create_session` that starts is not over. -/
theorem Step.creations_isOver (h : Step connection action next)
    (hover : ∀ creation ∈ connection.sessionManager.creations, creation.isOver = true)
    (haction : action ≠ .manage .createSession) :
    ∀ creation ∈ next.sessionManager.creations, creation.isOver = true := by
  have hnone {call : Nat} {creation : Creation}
      (hcall : connection.sessionManager.creations[call]? = some creation) :
      creation.isOver = true := hover creation (List.mem_of_getElem? hcall)
  cases h with
  | manage action manager event hpresent howner hstep =>
      cases hstep with
      | create => exact absurd rfl haction
      | permit call hcall | refuse call hcall => simpa [Creation.isOver] using hnone hcall
      | register call draws sessionId hcall => simpa [Creation.isOver] using hnone hcall
      | cancel call hcall =>
          rcases hcall with hcall | hcall
          · simpa [Creation.isOver] using hnone hcall
          · simpa [Creation.isOver] using hnone hcall
      | disable | lookup | reject | deliver | fail | receive | drop => exact hover
  | start | poll | dropSession | takeOutgoing | closeOutgoing | dropConnection => exact hover

end Frame

/-- `Session::complete` keeps it. -/
def KeptByComplete (P : Connection → Prop) : Prop :=
  ∀ connection index session, P connection → connection.sessions[index]? = some session →
    P { connection with sessions := connection.sessions.set index session.complete }

/-- A packet that an owner queues by hand keeps it. -/
def KeptByQueue (P : Connection → Prop) : Prop :=
  ∀ connection request, P connection →
    connection.sessionManager.outgoing.receiverDropped = false →
      ∀ hroom : connection.sessionManager.outgoing.HasRoom,
        P { connection with sessionManager := { connection.sessionManager with
          outgoing := connection.sessionManager.outgoing.push request hroom } }

end Connection

/-- A connection with its tasks, and whether its owner still holds an `Arc` of it. -/
structure RunningConnection where
  connection : Connection
  owned : Bool
  readTask : ReadTask
  writeTask : WriteTask
  handler : Handler

namespace RunningConnection

/-- A connection of which `run` was not called yet. -/
def new : RunningConnection := ⟨.new, true, .notSpawned, .notSpawned, .notCalled⟩

/-- What happens to a running connection, its tasks and its handler; a failed read or write is the
network's. -/
inductive Action where
  | run
  | owner (action : Connection.Action)
  | completeSession (session : Nat)
  | queueRequest (session : Nat) (request : Packet)
  | dropArc
  | readFrame (frame : List UInt8)
  | readEnd (rest : List UInt8)
  | readFailed (error : Error)
  | finishSend
  | takeOutgoing
  | written
  | writeFailed (error : Error)
  | join
  | disableNewSessions
  | dropConnection
  deriving DecidableEq

/-- The error of a write task whose queue has no sender left. -/
def noPacketReceived : Error := .msg "No packet received"

/-- The text of tokio's `JoinError`, without the task's number and message. -/
def taskPanicked : Error := .msg "task panicked"

section Actions

variable (md5 : List UInt8 → Digest) (obfuscationKey : Option (List UInt8))
  (running : RunningConnection)

/-- `run` needs an `Arc` of the connection; a second call panics at the taken receiver and touches
nothing. -/
def run : Option RunningConnection :=
  match running.handler, running.owned, running.connection.dropped with
  | .notCalled, true, false => some { running with
      readTask := .running
      writeTask := .receiving
      handler := .joining }
  | _, _, _ => none

/-- `create_session` borrows the owner's `Arc`; the sessions live without it. -/
def ownerStep (action : Connection.Action) : Option RunningConnection :=
  if action.byOwner && (running.owned || !action.borrowsArc) then
    (running.connection.step action).map fun connection => { running with connection }
  else none

/-- The owner of a session completes it by himself. -/
def completeSession (index : Nat) : Option RunningConnection :=
  (running.connection.completeSession index).map fun connection => { running with connection }

/-- What an owner queues by hand. -/
def queueRequest (index : Nat) (request : Packet) : Option RunningConnection :=
  (running.connection.queueRequest index request).map fun connection =>
    { running with connection }

/-- The owner drops its last `Arc`, which no call of `create_session` may borrow. -/
def dropArc : Option RunningConnection :=
  if running.owned && running.connection.sessionManager.creations.all Creation.isOver then
    some { running with owned := false }
  else none

/-- One turn of the read loop, which reads `frame`, up to its next await point. -/
def readFrame (frame : List UInt8) : Option RunningConnection :=
  match running.readTask, running.connection.sessionManager.sending,
      readRound md5 obfuscationKey frame with
  | .running, none, .next (some packet) [] =>
      (running.connection.step (.manage (.sendMessageToSession packet))).map fun connection =>
        { running with connection }
  | .running, none, .next none [] => some running
  | _, _, _ => none

/-- The stream ends after `rest`, the beginning of a frame. -/
def readEnd (rest : List UInt8) : Option RunningConnection :=
  match running.readTask, running.connection.sessionManager.sending,
      readRound md5 obfuscationKey rest with
  | .running, none, .stop result => some { running with readTask := .ended result }
  | _, _, _ => none

/-- A read fails before its frame is there. -/
def readFailed (error : Error) : Option RunningConnection :=
  match running.readTask, running.connection.sessionManager.sending with
  | .running, none => some { running with readTask := .ended (.err error) }
  | _, _ => none

/-- The read task's `send_message_to_session` gets to its end. -/
def finishSend : Option RunningConnection :=
  match running.readTask with
  | .running => (running.connection.step (.manage .finishSend)).map fun connection =>
      { running with connection }
  | _ => none

/-- The receiver of the outgoing queue goes with the write task. -/
def endWrite (result : Outcome Unit) : RunningConnection :=
  { running with
    connection := running.connection.closeOutgoing
    writeTask := .ended result }

/-- One turn of the write loop up to its `write_all`. -/
def takeOutgoing : Option RunningConnection :=
  match running.writeTask with
  | .receiving =>
      match running.connection.sessionManager.outgoing.recv with
      | .pending => none
      | .closed => some (running.endWrite (.err noPacketReceived))
      | .received packet _ =>
          (running.connection.step .takeOutgoing).map fun connection =>
            let taken := { running with connection }
            match obfuscateOutgoing md5 obfuscationKey packet with
            | .ok packet => { taken with writeTask := .writing packet.toBytes }
            | .err error => taken.endWrite (.err error)
            | .panic => taken.endWrite .panic
  | _ => none

/-- `write_all` gets to its end. -/
def written : Option RunningConnection :=
  match running.writeTask with
  | .writing _ => some { running with writeTask := .receiving }
  | _ => none

/-- `write_all` fails, and the write task with it. -/
def writeFailed (error : Error) : Option RunningConnection :=
  match running.writeTask with
  | .writing _ => some (running.endWrite (.err error))
  | _ => none

/-- `try_join!` returns as soon as a task has panicked, else when both are over. -/
def join : Option RunningConnection :=
  match running.handler, running.writeTask, running.readTask with
  | .joining, .ended .panic, _ => some { running with handler := .returned (.err taskPanicked) }
  | .joining, _, .ended .panic => some { running with handler := .returned (.err taskPanicked) }
  | .joining, .ended writeResult, .ended readResult =>
      some { running with handler := .disabling writeResult readResult }
  | _, _, _ => none

/-- The handler shuts the manager and returns the first error of the two tasks. -/
def disableNewSessions : Option RunningConnection :=
  match running.handler with
  | .disabling writeResult readResult =>
      (running.connection.step (.manage .disableNewSessions)).map fun connection =>
        { running with
          connection
          handler := .returned (writeResult.bind fun _ => readResult) }
  | _ => none

/-- Neither the owner nor a task nor the handler holds an `Arc` of the connection. -/
def unheld : Bool :=
  !running.owned && running.readTask.isOver && running.writeTask.isOver && running.handler.isOver

/-- The connection is freed with its last `Arc`. -/
def dropConnection : Option RunningConnection :=
  if running.unheld then
    running.connection.free.map fun connection => { running with connection }
  else none

/-- A step, or `none` where the action cannot happen. -/
def step (running : RunningConnection) : Action → Option RunningConnection
  | .run => running.run
  | .owner action => running.ownerStep action
  | .completeSession index => running.completeSession index
  | .queueRequest index request => running.queueRequest index request
  | .dropArc => running.dropArc
  | .readFrame frame => running.readFrame md5 obfuscationKey frame
  | .readEnd rest => running.readEnd md5 obfuscationKey rest
  | .readFailed error => running.readFailed error
  | .finishSend => running.finishSend
  | .takeOutgoing => running.takeOutgoing md5 obfuscationKey
  | .written => running.written
  | .writeFailed error => running.writeFailed error
  | .join => running.join
  | .disableNewSessions => running.disableNewSessions
  | .dropConnection => running.dropConnection

/-- Everything that can happen to a running connection. -/
inductive Step (running : RunningConnection) : Action → RunningConnection → Prop where
  | run (hhandler : running.handler = .notCalled) (howned : running.owned = true)
      (hpresent : running.connection.dropped = false) :
      Step running .run { running with
        readTask := .running
        writeTask := .receiving
        handler := .joining }
  | owner (action : Connection.Action) (connection : Connection) (howner : action.byOwner = true)
      (harc : running.owned = true ∨ action.borrowsArc = false)
      (hstep : Connection.Step running.connection action connection) :
      Step running (.owner action) { running with connection }
  | completeSession (index : Nat) (session : Session)
      (hsession : running.connection.sessions[index]? = some session) :
      Step running (.completeSession index) { running with connection := { running.connection with
        sessions := running.connection.sessions.set index session.complete } }
  | queueRequest (index : Nat) (request : Packet)
      (hopen : running.connection.sessionManager.outgoing.receiverDropped = false)
      (hroom : running.connection.sessionManager.outgoing.HasRoom) :
      Step running (.queueRequest index request) { running with
        connection := { running.connection with
          sessionManager := { running.connection.sessionManager with
            outgoing := running.connection.sessionManager.outgoing.push request hroom } } }
  | dropArc (howned : running.owned = true)
      (hover : ∀ creation ∈ running.connection.sessionManager.creations,
        creation.isOver = true) :
      Step running .dropArc { running with owned := false }
  | forward (frame : List UInt8) (packet : Packet) (connection : Connection)
      (hrunning : running.readTask = .running)
      (hidle : running.connection.sessionManager.sending = none)
      (hround : readRound md5 obfuscationKey frame = .next (some packet) [])
      (hstep : Connection.Step running.connection (.manage (.sendMessageToSession packet))
        connection) :
      Step running (.readFrame frame) { running with connection }
  | skip (frame : List UInt8) (hrunning : running.readTask = .running)
      (hround : readRound md5 obfuscationKey frame = .next none []) :
      Step running (.readFrame frame) running
  | endRead (action : Action) (error : Error)
      (haction : (∃ rest, action = .readEnd rest) ∨ action = .readFailed error)
      (hrunning : running.readTask = .running)
      (hidle : running.connection.sessionManager.sending = none) :
      Step running action { running with readTask := .ended (.err error) }
  | finishSend (connection : Connection) (hrunning : running.readTask = .running)
      (hstep : Connection.Step running.connection (.manage .finishSend) connection) :
      Step running .finishSend { running with connection }
  | takeOutgoing (packet written : Packet) (outgoing : PacketChannel) (connection : Connection)
      (hreceiving : running.writeTask = .receiving)
      (hrecv : running.connection.sessionManager.outgoing.recv = .received packet outgoing)
      (hwritten : obfuscateOutgoing md5 obfuscationKey packet = .ok written)
      (hstep : Connection.Step running.connection .takeOutgoing connection) :
      Step running .takeOutgoing { running with
        connection
        writeTask := .writing written.toBytes }
  | takePanicked (packet : Packet) (outgoing : PacketChannel) (connection : Connection)
      (hreceiving : running.writeTask = .receiving)
      (hrecv : running.connection.sessionManager.outgoing.recv = .received packet outgoing)
      (hpanicked : obfuscateOutgoing md5 obfuscationKey packet = .panic)
      (hstep : Connection.Step running.connection .takeOutgoing connection) :
      Step running .takeOutgoing ({ running with connection }.endWrite .panic)
  | outgoingClosed (hreceiving : running.writeTask = .receiving)
      (hclosed : running.connection.sessionManager.outgoing.recv = .closed) :
      Step running .takeOutgoing (running.endWrite (.err noPacketReceived))
  | written (bytes : List UInt8) (hwriting : running.writeTask = .writing bytes) :
      Step running .written { running with writeTask := .receiving }
  | writeFailed (bytes : List UInt8) (error : Error)
      (hwriting : running.writeTask = .writing bytes) :
      Step running (.writeFailed error) (running.endWrite (.err error))
  | joinPanicked (hjoining : running.handler = .joining)
      (hpanicked : running.writeTask = .ended .panic ∨ running.readTask = .ended .panic) :
      Step running .join { running with handler := .returned (.err taskPanicked) }
  | join (writeResult readResult : Outcome Unit) (hjoining : running.handler = .joining)
      (hwrite : running.writeTask = .ended writeResult)
      (hread : running.readTask = .ended readResult) (hnoPanic : writeResult ≠ .panic) :
      Step running .join { running with handler := .disabling writeResult readResult }
  | disableNewSessions (writeResult readResult : Outcome Unit) (connection : Connection)
      (hdisabling : running.handler = .disabling writeResult readResult)
      (hstep : Connection.Step running.connection (.manage .disableNewSessions) connection) :
      Step running .disableNewSessions { running with
        connection
        handler := .returned (writeResult.bind fun _ => readResult) }
  | dropConnection (connection : Connection) (howned : running.owned = false)
      (hread : running.readTask.isOver = true)
      (hwrite : running.writeTask.isOver = true) (hhandler : running.handler.isOver = true)
      (hstep : Connection.Step running.connection.closeOutgoing .dropConnection connection) :
      Step running .dropConnection { running with connection }

end Actions

section Inversion

variable {md5 : List UInt8 → Digest} {obfuscationKey : Option (List UInt8)}
  {running next : RunningConnection}

/-- The read loop leaves only when the stream ends. -/
theorem readRound_eq_stop {stream : List UInt8} {result : Outcome Unit}
    (h : readRound md5 obfuscationKey stream = .stop result) :
    result = .err (.msg "early eof") := by
  rcases readRound_cases md5 obfuscationKey stream with
    ⟨-, hstop⟩ | ⟨headerBuffer, rest, rfl, hlength, hrejected | ⟨header, haccepted,
      hrest | ⟨body, tail, rfl, hbody⟩⟩⟩
  · rw [hstop, Round.stop.injEq] at h
    exact h.symm
  · simp [readRound_of_rejected md5 obfuscationKey hlength hrejected] at h
  · rw [readRound_of_truncated md5 obfuscationKey hlength haccepted hrest, Round.stop.injEq] at h
    exact h.symm
  · simp [readRound_of_accepted md5 obfuscationKey hlength haccepted hbody] at h

/-- A packet that cannot be obfuscated makes the writer panic. -/
theorem obfuscateOutgoing_ne_err (packet : Packet) (error : Error) :
    obfuscateOutgoing md5 obfuscationKey packet ≠ .err error := by
  rcases Nat.lt_or_ge packet.header.length.toNat packet.body.length with hlong | hshort
  · cases obfuscationKey with
    | none => simp [obfuscateOutgoing]
    | some key =>
        cases hflag : packet.header.flags.contains TacacsFlags.tacPlusUnencryptedFlag with
        | true => simp [obfuscateOutgoing, hflag, Packet.toObfuscated_of_lt md5 key hflag hlong]
        | false => simp [obfuscateOutgoing, hflag]
  · simp [obfuscateOutgoing_eq md5 obfuscationKey hshort]

theorem run_eq_some (h : running.run = some next) :
    Step md5 obfuscationKey running .run next := by
  unfold run at h
  split at h
  · next hhandler howned hpresent =>
    obtain rfl := Option.some.inj h
    exact .run hhandler howned hpresent
  · simp at h

theorem ownerStep_eq_some {action : Connection.Action} (h : running.ownerStep action = some next) :
    Step md5 obfuscationKey running (.owner action) next := by
  unfold ownerStep at h
  split at h
  · next hallowed =>
    rw [Bool.and_eq_true, Bool.or_eq_true, Bool.not_eq_true'] at hallowed
    obtain ⟨connection, hconnection, rfl⟩ := Option.map_eq_some_iff.mp h
    exact .owner action connection hallowed.1 hallowed.2 (Connection.step_eq_some hconnection)
  · simp at h

theorem completeSession_eq_some {index : Nat} (h : running.completeSession index = some next) :
    Step md5 obfuscationKey running (.completeSession index) next := by
  obtain ⟨connection, hconnection, rfl⟩ := Option.map_eq_some_iff.mp h
  obtain ⟨session, hsession, rfl⟩ := Connection.completeSession_eq_some hconnection
  exact .completeSession index session hsession

theorem queueRequest_eq_some {index : Nat} {request : Packet}
    (h : running.queueRequest index request = some next) :
    Step md5 obfuscationKey running (.queueRequest index request) next := by
  obtain ⟨connection, hconnection, rfl⟩ := Option.map_eq_some_iff.mp h
  obtain ⟨hopen, hroom, rfl⟩ := Connection.queueRequest_eq_some hconnection
  exact .queueRequest index request hopen hroom

theorem dropArc_eq_some (h : running.dropArc = some next) :
    Step md5 obfuscationKey running .dropArc next := by
  unfold dropArc at h
  split at h
  · next hallowed =>
    rw [Bool.and_eq_true, List.all_eq_true] at hallowed
    obtain rfl := Option.some.inj h
    exact .dropArc hallowed.1 hallowed.2
  · simp at h

theorem readFrame_eq_some {frame : List UInt8}
    (h : running.readFrame md5 obfuscationKey frame = some next) :
    Step md5 obfuscationKey running (.readFrame frame) next := by
  unfold readFrame at h
  split at h
  · next packet hrunning hidle hround =>
    obtain ⟨connection, hconnection, rfl⟩ := Option.map_eq_some_iff.mp h
    exact .forward frame packet connection hrunning hidle hround
      (Connection.step_eq_some hconnection)
  · next hrunning hidle hround =>
    obtain rfl := Option.some.inj h
    exact .skip frame hrunning hround
  · simp at h

theorem readEnd_eq_some {rest : List UInt8}
    (h : running.readEnd md5 obfuscationKey rest = some next) :
    Step md5 obfuscationKey running (.readEnd rest) next := by
  unfold readEnd at h
  split at h
  · next result hrunning hidle hround =>
    obtain rfl := Option.some.inj h
    obtain rfl := readRound_eq_stop hround
    exact .endRead _ _ (.inl ⟨rest, rfl⟩) hrunning hidle
  · simp at h

theorem readFailed_eq_some {error : Error} (h : running.readFailed error = some next) :
    Step md5 obfuscationKey running (.readFailed error) next := by
  unfold readFailed at h
  split at h
  · next hrunning hidle =>
    obtain rfl := Option.some.inj h
    exact .endRead _ error (.inr rfl) hrunning hidle
  · simp at h

theorem finishSend_eq_some (h : running.finishSend = some next) :
    Step md5 obfuscationKey running .finishSend next := by
  unfold finishSend at h
  split at h
  · next hrunning =>
    obtain ⟨connection, hconnection, rfl⟩ := Option.map_eq_some_iff.mp h
    exact .finishSend connection hrunning (Connection.step_eq_some hconnection)
  · simp at h

theorem takeOutgoing_eq_some (h : running.takeOutgoing md5 obfuscationKey = some next) :
    Step md5 obfuscationKey running .takeOutgoing next := by
  unfold takeOutgoing at h
  split at h
  · next hreceiving =>
    split at h
    · simp at h
    · next hclosed =>
      obtain rfl := Option.some.inj h
      exact .outgoingClosed hreceiving hclosed
    · next packet outgoing hrecv =>
      obtain ⟨connection, hconnection, rfl⟩ := Option.map_eq_some_iff.mp h
      have hstep := Connection.step_eq_some hconnection
      dsimp only
      split
      · next written hwritten =>
        exact .takeOutgoing packet written outgoing connection hreceiving hrecv hwritten hstep
      · next error herror =>
        exact absurd herror (obfuscateOutgoing_ne_err packet error)
      · next hpanicked =>
        exact .takePanicked packet outgoing connection hreceiving hrecv hpanicked hstep
  · simp at h

theorem written_eq_some (h : running.written = some next) :
    Step md5 obfuscationKey running .written next := by
  unfold written at h
  split at h
  · next bytes hwriting =>
    obtain rfl := Option.some.inj h
    exact .written bytes hwriting
  · simp at h

theorem writeFailed_eq_some {error : Error} (h : running.writeFailed error = some next) :
    Step md5 obfuscationKey running (.writeFailed error) next := by
  unfold writeFailed at h
  split at h
  · next bytes hwriting =>
    obtain rfl := Option.some.inj h
    exact .writeFailed bytes error hwriting
  · simp at h

theorem join_eq_some (h : running.join = some next) :
    Step md5 obfuscationKey running .join next := by
  unfold join at h
  split at h
  · next hjoining hwrite =>
    obtain rfl := Option.some.inj h
    exact .joinPanicked hjoining (.inl hwrite)
  · next hjoining hread _ =>
    obtain rfl := Option.some.inj h
    exact .joinPanicked hjoining (.inr hread)
  · next writeResult readResult hnoPanic _ hjoining hwrite hread =>
    obtain rfl := Option.some.inj h
    exact .join writeResult readResult hjoining hwrite hread hnoPanic
  · simp at h

theorem disableNewSessions_eq_some (h : running.disableNewSessions = some next) :
    Step md5 obfuscationKey running .disableNewSessions next := by
  unfold disableNewSessions at h
  split at h
  · next writeResult readResult hdisabling =>
    obtain ⟨connection, hconnection, rfl⟩ := Option.map_eq_some_iff.mp h
    exact .disableNewSessions writeResult readResult connection hdisabling
      (Connection.step_eq_some hconnection)
  · simp at h

theorem dropConnection_eq_some (h : running.dropConnection = some next) :
    Step md5 obfuscationKey running .dropConnection next := by
  unfold dropConnection at h
  split at h
  · next hunheld =>
    simp only [unheld, Bool.and_eq_true, Bool.not_eq_true'] at hunheld
    obtain ⟨connection, hconnection, rfl⟩ := Option.map_eq_some_iff.mp h
    exact .dropConnection connection hunheld.1.1.1 hunheld.1.1.2 hunheld.1.2 hunheld.2
      (Connection.step_eq_some hconnection)
  · simp at h

theorem step_eq_some {action : Action} (h : step md5 obfuscationKey running action = some next) :
    Step md5 obfuscationKey running action next := by
  cases action with
  | run => exact run_eq_some h
  | owner action => exact ownerStep_eq_some h
  | completeSession index => exact completeSession_eq_some h
  | queueRequest index request => exact queueRequest_eq_some h
  | dropArc => exact dropArc_eq_some h
  | readFrame frame => exact readFrame_eq_some h
  | readEnd rest => exact readEnd_eq_some h
  | readFailed error => exact readFailed_eq_some h
  | finishSend => exact finishSend_eq_some h
  | takeOutgoing => exact takeOutgoing_eq_some h
  | written => exact written_eq_some h
  | writeFailed error => exact writeFailed_eq_some h
  | join => exact join_eq_some h
  | disableNewSessions => exact disableNewSessions_eq_some h
  | dropConnection => exact dropConnection_eq_some h

end Inversion

section Runs

variable {md5 : List UInt8 → Digest} {obfuscationKey : Option (List UInt8)}
  {running next : RunningConnection} {action : Action}

/-- What every step of a connection and `Session::complete` keep is kept by every step, but for
packets that are queued by hand. -/
theorem Step.invariant_of_unqueued {P : Connection → Prop}
    (hstep : ∀ connection action next, P connection → Connection.Step connection action next →
      P next)
    (hcomplete : Connection.KeptByComplete P) (h : Step md5 obfuscationKey running action next)
    (hunqueued : ∀ index request, action ≠ .queueRequest index request)
    (hbefore : P running.connection) : P next.connection := by
  have hclosed {connection : Connection} (hconnection : P connection) :
      P connection.closeOutgoing := hstep _ _ _ hconnection .closeOutgoing
  cases h with
  | run | dropArc | skip | endRead | written | joinPanicked | join => exact hbefore
  | owner action connection howner harc howned => exact hstep _ _ _ hbefore howned
  | completeSession index session hsession => exact hcomplete _ _ _ hbefore hsession
  | queueRequest index request => exact absurd rfl (hunqueued index request)
  | forward frame packet connection hrunning hidle hround hforward =>
      exact hstep _ _ _ hbefore hforward
  | finishSend connection hrunning hfinish => exact hstep _ _ _ hbefore hfinish
  | takeOutgoing packet written outgoing connection hreceiving hrecv hwritten htake =>
      exact hstep _ _ _ hbefore htake
  | takePanicked packet outgoing connection hreceiving hrecv hpanicked htake =>
      exact hclosed (hstep _ _ _ hbefore htake)
  | outgoingClosed | writeFailed => exact hclosed hbefore
  | disableNewSessions writeResult readResult connection hdisabling hdisable =>
      exact hstep _ _ _ hbefore hdisable
  | dropConnection connection howned hread hwrite hhandler hdrop =>
      exact hstep _ _ _ (hclosed hbefore) hdrop

/-- What every step of a connection and its owners keep is kept by every step. -/
theorem Step.invariant {P : Connection → Prop}
    (hstep : ∀ connection action next, P connection → Connection.Step connection action next →
      P next)
    (hcomplete : Connection.KeptByComplete P) (hqueue : Connection.KeptByQueue P)
    (h : Step md5 obfuscationKey running action next) (hbefore : P running.connection) :
    P next.connection := by
  by_cases hunqueued : ∀ index request, action ≠ .queueRequest index request
  · exact h.invariant_of_unqueued hstep hcomplete hunqueued hbefore
  · push Not at hunqueued
    obtain ⟨index, request, rfl⟩ := hunqueued
    cases h with
    | queueRequest _ _ hopen hroom => exact hqueue _ _ hbefore hopen hroom
    | endRead _ error haction => simp at haction

theorem connection_invariant_of_run {P : Connection → Prop} (hinit : P .new)
    (hstep : ∀ connection action next, P connection → Connection.Step connection action next →
      P next)
    (hcomplete : Connection.KeptByComplete P) (hqueue : Connection.KeptByQueue P)
    {actions : List Action}
    {running : RunningConnection}
    (hrun : Rust.run (step md5 obfuscationKey) new actions = some running) :
    P running.connection := by
  refine invariant_of_run (P := fun running => P running.connection) hinit ?_ hrun
  exact fun mid action next hmid hnext =>
    (step_eq_some hnext).invariant hstep hcomplete hqueue hmid

/-- The same for runs in which nothing is queued by hand. -/
theorem connection_invariant_of_unqueued {P : Connection → Prop} (hinit : P .new)
    (hstep : ∀ connection action next, P connection → Connection.Step connection action next →
      P next)
    (hcomplete : Connection.KeptByComplete P) {actions : List Action}
    (hunqueued : ∀ index request, .queueRequest index request ∉ actions)
    {running : RunningConnection}
    (hrun : Rust.run (step md5 obfuscationKey) new actions = some running) :
    P running.connection := by
  have hmeets : Meets (step md5 obfuscationKey)
      (fun _ action => ∀ index request, action ≠ .queueRequest index request) new actions := by
    rintro before action hpre mid - index request rfl
    exact hunqueued index request (hpre.subset (by simp))
  refine invariant_of_meets (P := fun running => P running.connection) hinit ?_ hmeets hrun
  exact fun mid action next hmid hguard hnext =>
    (step_eq_some hnext).invariant_of_unqueued hstep hcomplete hguard hmid

theorem Step.registered (h : Step md5 obfuscationKey running action next)
    (hregistered : running.connection.Registered) : next.connection.Registered := by
  refine h.invariant ?_ ?_ ?_ hregistered
  · exact fun connection action next h hstep => h.step hstep
  · exact fun connection index session h hsession => h.complete hsession
  · exact fun connection request h hopen hroom => h.queue hroom

theorem Step.matched (h : Step md5 obfuscationKey running action next)
    (hmatched : running.connection.Matched) : next.connection.Matched := by
  refine h.invariant ?_ ?_ ?_ hmatched
  · exact fun connection action next h hstep => h.step hstep
  · exact fun connection index session h hsession => h.complete hsession
  · exact fun connection request h hopen hroom => h.queue hroom

theorem registered_of_run {actions : List Action}
    (hrun : Rust.run (step md5 obfuscationKey) new actions = some running) :
    running.connection.Registered :=
  invariant_of_run (P := fun running : RunningConnection => running.connection.Registered)
    Connection.registered_new (fun _ _ _ h hnext => (step_eq_some hnext).registered h) hrun

end Runs

/-- In place of MD5 in runs whose digests do not matter. -/
def noDigest (_block : List UInt8) : Digest := ⟨List.replicate 16 0, rfl⟩

end RunningConnection

/-- A TCP connection from the moment it is made, with everything that happens to it. -/
def TcpConnection.step (md5 : List UInt8 → Digest) (connection : TcpConnection) :
    RunningConnection → RunningConnection.Action → Option RunningConnection :=
  RunningConnection.step md5 connection.obfuscationKey

/-- A TLS connection from the moment it is made, with everything that happens to it. -/
def TlsConnection.step (md5 : List UInt8 → Digest) (connection : TlsConnection) :
    RunningConnection → RunningConnection.Action → Option RunningConnection :=
  RunningConnection.step md5 connection.obfuscationKey

end TacacsRs.Networking
