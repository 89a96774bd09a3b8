import TacacsRs.Rust.RwLock
import TacacsRs.Messages.AccountingRequest
import TacacsRs.Networking.SessionManager

/-!
# Sessions and their accounting calls

Any number of calls of `send_accounting_request` run on one session, on any
number of threads. One step of a call makes one use of what the calls share;
between two of them its locals are kept with it. The sequence number, the
completion flag and the read half of the receiver are locked within one step
only, so the lock on the receiver is the one that calls wait for: `is_complete`
as a reader, the wait for the reply as the writer, which keeps it until the call
is over. Joining the line for that lock is a step of its own.
-/

namespace TacacsRs.Networking

open Rust Messages

/-- The channels of a session: to the connection's outgoing queue and from its reader. -/
structure DuplexChannel where
  sender : PacketChannel
  receiver : PacketChannel
  deriving DecidableEq

namespace DuplexChannel

/-- Nobody takes packets from the outgoing queue any more. -/
def senderClosed (duplexChannel : DuplexChannel) : Bool := duplexChannel.sender.receiverDropped

/-- Nobody puts packets into the session's channel any more. -/
def receiverClosed (duplexChannel : DuplexChannel) : Bool :=
  duplexChannel.receiver.sendersDropped

end DuplexChannel

/-- The point at which a call of `send_accounting_request` stands. -/
inductive CallPhase where
  | checkingSender
  | joiningRead
  | checkingReceiver
  | checkingComplete
  | drawing
  | sending (packet : Packet)
  | joiningWrite
  | acquiring
  | receiving
  | completing (reply : AccountingReply)
  | returned (result : Outcome AccountingReply)
  | abandoned
  deriving DecidableEq

/-- What a call has to do with the lock on the receiver. -/
def CallPhase.stake : CallPhase → Stake
  | .checkingReceiver => .waiting .read
  | .acquiring => .waiting .write
  | .receiving => .writing
  | .completing _ => .writing
  | _ => .outside

/-- A call of `send_accounting_request` with its argument and its local variables. -/
structure Call where
  request : AccountingRequest
  sequenceNumber : Option UInt8
  response : Option Packet
  phase : CallPhase
  deriving DecidableEq

/-- A session with its counter, its flag, the lock on its receiver and all its calls. -/
structure Session where
  sessionId : UInt32
  currentSequenceNumber : UInt8
  sessionComplete : Bool
  receiverLock : RwLock
  calls : List Call
  deriving DecidableEq

/-- One step of a call, named after the point that it starts from. -/
inductive Poll where
  | checkSender
  | joinRead
  | checkReceiver
  | checkComplete
  | draw
  | send
  | joinWrite
  | acquire
  | receive
  | complete
  | abandon
  deriving DecidableEq

namespace Session

/-- A session that has made no call; its first number is 1. -/
def new (sessionId : UInt32) : Session where
  sessionId := sessionId
  currentSequenceNumber := 1
  sessionComplete := false
  receiverLock := .new
  calls := []

/-- The error of a call that finds the session complete or a channel closed. -/
def alreadyComplete : Error := .msg "Session is already complete"

/-- The error of a call whose channel has no sender left. -/
def failedToReceive : Error := .msg "Failed to receive response"

/-- The text of tokio's `SendError`. -/
def channelClosed : Error := .msg "channel closed"

/-- `send_accounting_request` is called; nothing of it has run yet. -/
def sendAccountingRequest (session : Session) (request : AccountingRequest) : Session :=
  { session with calls := session.calls ++ [⟨request, none, none, .checkingSender⟩] }

/-- The number that is handed out, and the session with the next one. -/
def nextSequenceNumber (session : Session) : UInt8 × Session :=
  (session.currentSequenceNumber,
    { session with currentSequenceNumber := session.currentSequenceNumber + 2 })

/-- `Session::complete`, which cannot be taken back. -/
def complete (session : Session) : Session := { session with sessionComplete := true }

/-- The packet of a request under the given sequence number. -/
def requestPacket (session : Session) (sequenceNumber : UInt8) (request : AccountingRequest) :
    Outcome Packet :=
  let data := request.toBytes
  Packet.new
    { majorVersion := .tacacsPlusMajor1
      minorVersion := .tacacsPlusMinorVerDefault
      tacacsType := .tacPlusAccounting
      seqNo := sequenceNumber
      flags := TacacsFlags.tacPlusUnencryptedFlag
      sessionId := session.sessionId
      length := UInt32.ofNat data.length } data

/-- The call at `index` gets on. -/
def setCall (session : Session) (index : Nat) (call : Call) : Session :=
  { session with calls := session.calls.set index call }

/-- The call at `index` lines up for the lock. -/
def joinLock (session : Session) (index : Nat) (mode : LockMode) : Session :=
  { session with receiverLock := session.receiverLock.join index mode }

/-- The call at `index` gives up the lock, or its place in the line. -/
def leaveLock (session : Session) (index : Nat) : Session :=
  { session with receiverLock := session.receiverLock.leave index }

section Polls

variable (session : Session) (duplexChannel : DuplexChannel) (index : Nat) (call : Call)

/-- The first check of `is_complete`: the sender of the outgoing queue. -/
def pollCheckSender : Session :=
  if duplexChannel.senderClosed then
    session.setCall index { call with phase := .returned (.err alreadyComplete) }
  else
    session.setCall index { call with phase := .joiningRead }

/-- The second check needs the lock on the receiver, for reading. -/
def pollJoinRead : Session :=
  (session.joinLock index .read).setCall index { call with phase := .checkingReceiver }

/-- The second check of `is_complete`, under the lock: the receiver. -/
def pollCheckReceiver : Option Session :=
  if session.receiverLock.CanRead index then
    if duplexChannel.receiverClosed then
      some ((session.leaveLock index).setCall index
        { call with phase := .returned (.err alreadyComplete) })
    else
      some ((session.leaveLock index).setCall index { call with phase := .checkingComplete })
  else
    none

/-- The last check of `is_complete`: the flag. -/
def pollCheckComplete : Session :=
  if session.sessionComplete then
    session.setCall index { call with phase := .returned (.err alreadyComplete) }
  else
    session.setCall index { call with phase := .drawing }

/-- The call draws its number and makes its packet. -/
def pollDraw : Session :=
  let sequenceNumber := session.nextSequenceNumber.1
  let drawn := session.nextSequenceNumber.2
  match drawn.requestPacket sequenceNumber call.request with
  | .ok packet => drawn.setCall index
      { call with sequenceNumber := some sequenceNumber, phase := .sending packet }
  | .err error => drawn.setCall index
      { call with sequenceNumber := some sequenceNumber, phase := .returned (.err error) }
  | .panic => drawn.setCall index
      { call with sequenceNumber := some sequenceNumber, phase := .returned .panic }

/-- The packet goes onto the outgoing queue as soon as there is room. -/
def pollSend (packet : Packet) : Option (Session × DuplexChannel) :=
  match duplexChannel.sender.send packet with
  | .pending => none
  | .closed =>
      some (session.setCall index { call with phase := .returned (.err channelClosed) },
        duplexChannel)
  | .sent sender =>
      some (session.setCall index { call with phase := .joiningWrite },
        { duplexChannel with sender })

/-- The call lines up for its packet: it needs the lock on the receiver, for writing. -/
def pollJoinWrite : Session :=
  (session.joinLock index .write).setCall index { call with phase := .acquiring }

/-- The call gets the lock when all before it have left the line. -/
def pollAcquire : Option Session :=
  if session.receiverLock.CanWrite index then
    some ({ session with receiverLock := session.receiverLock.acquire index }.setCall index
      { call with phase := .receiving })
  else
    none

/-- The call takes the next packet of its session, under the lock, and decodes it. -/
def pollReceive : Option (Session × DuplexChannel) :=
  match duplexChannel.receiver.recv with
  | .pending => none
  | .closed =>
      some ((session.leaveLock index).setCall index
        { call with phase := .returned (.err failedToReceive) }, duplexChannel)
  | .received response receiver =>
      match AccountingReply.fromBytes response.body with
      | .ok reply =>
          some (session.setCall index
            { call with response := some response, phase := .completing reply },
            { duplexChannel with receiver })
      | .err error =>
          some ((session.leaveLock index).setCall index
            { call with response := some response, phase := .returned (.err error) },
            { duplexChannel with receiver })
      | .panic =>
          some ((session.leaveLock index).setCall index
            { call with response := some response, phase := .returned .panic },
            { duplexChannel with receiver })

/-- The call completes the session, leaves the lock and returns its reply. -/
def pollComplete (reply : AccountingReply) : Session :=
  ({ session with sessionComplete := true }.leaveLock index).setCall index
    { call with phase := .returned (.ok reply) }

/-- The future of the call is dropped, and with it its guard or its place in the queue. -/
def abandon : Session := (session.leaveLock index).setCall index { call with phase := .abandoned }

end Polls

/-- One poll of the call at `index`, if that is what the call waits for. -/
def poll (session : Session) (duplexChannel : DuplexChannel) (index : Nat) (poll : Poll) :
    Option (Session × DuplexChannel) :=
  match session.calls[index]? with
  | none => none
  | some call =>
      match poll, call.phase with
      | .checkSender, .checkingSender =>
          some (session.pollCheckSender duplexChannel index call, duplexChannel)
      | .joinRead, .joiningRead => some (session.pollJoinRead index call, duplexChannel)
      | .checkReceiver, .checkingReceiver =>
          (session.pollCheckReceiver duplexChannel index call).map (·, duplexChannel)
      | .checkComplete, .checkingComplete =>
          some (session.pollCheckComplete index call, duplexChannel)
      | .draw, .drawing => some (session.pollDraw index call, duplexChannel)
      | .send, .sending packet => session.pollSend duplexChannel index call packet
      | .joinWrite, .joiningWrite => some (session.pollJoinWrite index call, duplexChannel)
      | .acquire, .acquiring => (session.pollAcquire index call).map (·, duplexChannel)
      | .receive, .receiving => session.pollReceive duplexChannel index call
      | .complete, .completing reply =>
          some (session.pollComplete index call reply, duplexChannel)
      | .abandon, .returned _ => none
      | .abandon, .abandoned => none
      | .abandon, _ => some (session.abandon index call, duplexChannel)
      | _, _ => none

/-- Everything that a poll of the call at `index` can do. -/
inductive Polled (session : Session) (duplexChannel : DuplexChannel) (index : Nat) (call : Call) :
    Poll → Session → DuplexChannel → Prop where
  | senderClosed (hphase : call.phase = .checkingSender)
      (hclosed : duplexChannel.senderClosed = true) :
      Polled session duplexChannel index call .checkSender
        (session.setCall index { call with phase := .returned (.err alreadyComplete) })
        duplexChannel
  | senderOpen (hphase : call.phase = .checkingSender)
      (hopen : duplexChannel.senderClosed = false) :
      Polled session duplexChannel index call .checkSender
        (session.setCall index { call with phase := .joiningRead }) duplexChannel
  | joinRead (hphase : call.phase = .joiningRead) :
      Polled session duplexChannel index call .joinRead
        ((session.joinLock index .read).setCall index { call with phase := .checkingReceiver })
        duplexChannel
  | receiverClosed (hphase : call.phase = .checkingReceiver)
      (hcan : session.receiverLock.CanRead index)
      (hclosed : duplexChannel.receiverClosed = true) :
      Polled session duplexChannel index call .checkReceiver
        ((session.leaveLock index).setCall index
          { call with phase := .returned (.err alreadyComplete) }) duplexChannel
  | receiverOpen (hphase : call.phase = .checkingReceiver)
      (hcan : session.receiverLock.CanRead index)
      (hopen : duplexChannel.receiverClosed = false) :
      Polled session duplexChannel index call .checkReceiver
        ((session.leaveLock index).setCall index { call with phase := .checkingComplete })
        duplexChannel
  | complete (hphase : call.phase = .checkingComplete)
      (hcomplete : session.sessionComplete = true) :
      Polled session duplexChannel index call .checkComplete
        (session.setCall index { call with phase := .returned (.err alreadyComplete) })
        duplexChannel
  | incomplete (hphase : call.phase = .checkingComplete)
      (hcomplete : session.sessionComplete = false) :
      Polled session duplexChannel index call .checkComplete
        (session.setCall index { call with phase := .drawing }) duplexChannel
  | draw (phase : CallPhase) (hphase : call.phase = .drawing)
      (hnext : (∃ packet, phase = .sending packet ∧
          session.requestPacket session.currentSequenceNumber call.request = .ok packet) ∨
        (∃ error, phase = .returned (.err error)) ∨ phase = .returned .panic) :
      Polled session duplexChannel index call .draw
        ({ session with currentSequenceNumber := session.currentSequenceNumber + 2 }.setCall index
          { call with sequenceNumber := some session.currentSequenceNumber, phase })
        duplexChannel
  | queue (packet : Packet) (hphase : call.phase = .sending packet)
      (hopen : duplexChannel.sender.receiverDropped = false)
      (hroom : duplexChannel.sender.HasRoom) :
      Polled session duplexChannel index call .send
        (session.setCall index { call with phase := .joiningWrite })
        { duplexChannel with sender := duplexChannel.sender.push packet hroom }
  | queueClosed (packet : Packet) (hphase : call.phase = .sending packet)
      (hclosed : duplexChannel.sender.receiverDropped = true) :
      Polled session duplexChannel index call .send
        (session.setCall index { call with phase := .returned (.err channelClosed) })
        duplexChannel
  | joinWrite (hphase : call.phase = .joiningWrite) :
      Polled session duplexChannel index call .joinWrite
        ((session.joinLock index .write).setCall index { call with phase := .acquiring })
        duplexChannel
  | acquire (hphase : call.phase = .acquiring) (hcan : session.receiverLock.CanWrite index) :
      Polled session duplexChannel index call .acquire
        ({ session with receiverLock := session.receiverLock.acquire index }.setCall index
          { call with phase := .receiving }) duplexChannel
  | closed (hphase : call.phase = .receiving) (hempty : duplexChannel.receiver.queue = [])
      (hclosed : duplexChannel.receiver.sendersDropped = true) :
      Polled session duplexChannel index call .receive
        ((session.leaveLock index).setCall index
          { call with phase := .returned (.err failedToReceive) }) duplexChannel
  | reply (response : Packet) (receiver : PacketChannel) (reply : AccountingReply)
      (hphase : call.phase = .receiving)
      (hrecv : duplexChannel.receiver.recv = .received response receiver)
      (hreply : AccountingReply.fromBytes response.body = .ok reply) :
      Polled session duplexChannel index call .receive
        (session.setCall index
          { call with response := some response, phase := .completing reply })
        { duplexChannel with receiver }
  | malformed (response : Packet) (receiver : PacketChannel) (result : Outcome AccountingReply)
      (hphase : call.phase = .receiving)
      (hrecv : duplexChannel.receiver.recv = .received response receiver)
      (hmalformed : AccountingReply.fromBytes response.body = result)
      (hresult : ∀ reply, result ≠ .ok reply) :
      Polled session duplexChannel index call .receive
        ((session.leaveLock index).setCall index
          { call with response := some response, phase := .returned result })
        { duplexChannel with receiver }
  | succeed (reply : AccountingReply) (hphase : call.phase = .completing reply) :
      Polled session duplexChannel index call .complete
        (({ session with sessionComplete := true }.leaveLock index).setCall index
          { call with phase := .returned (.ok reply) }) duplexChannel
  | abandon (hreturned : ∀ result, call.phase ≠ .returned result)
      (habandoned : call.phase ≠ .abandoned) :
      Polled session duplexChannel index call .abandon
        ((session.leaveLock index).setCall index { call with phase := .abandoned }) duplexChannel

theorem Polled.sessionId_eq {session next : Session} {duplexChannel duplexChannel' : DuplexChannel}
    {index : Nat} {call : Call} {poll : Poll}
    (h : Polled session duplexChannel index call poll next duplexChannel') :
    next.sessionId = session.sessionId := by
  cases h <;> rfl

section Inversion

variable {session next : Session} {duplexChannel duplexChannel' : DuplexChannel} {index : Nat}
  {call : Call}

theorem polled_checkSender (hphase : call.phase = .checkingSender) :
    Polled session duplexChannel index call .checkSender
      (session.pollCheckSender duplexChannel index call) duplexChannel := by
  unfold pollCheckSender
  split
  · next hclosed => exact .senderClosed hphase hclosed
  · next hopen => exact .senderOpen hphase (Bool.eq_false_iff.mpr hopen)

theorem polled_checkReceiver (hphase : call.phase = .checkingReceiver)
    (h : session.pollCheckReceiver duplexChannel index call = some next) :
    Polled session duplexChannel index call .checkReceiver next duplexChannel := by
  unfold pollCheckReceiver at h
  split at h
  · next hcan =>
    split at h
    · next hclosed =>
      obtain rfl := Option.some.inj h
      exact .receiverClosed hphase hcan hclosed
    · next hopen =>
      obtain rfl := Option.some.inj h
      exact .receiverOpen hphase hcan (Bool.eq_false_iff.mpr hopen)
  · simp at h

theorem polled_checkComplete (hphase : call.phase = .checkingComplete) :
    Polled session duplexChannel index call .checkComplete
      (session.pollCheckComplete index call) duplexChannel := by
  unfold pollCheckComplete
  split
  · next hcomplete => exact .complete hphase hcomplete
  · next hincomplete => exact .incomplete hphase (Bool.eq_false_iff.mpr hincomplete)

theorem polled_draw (hphase : call.phase = .drawing) :
    Polled session duplexChannel index call .draw (session.pollDraw index call)
      duplexChannel := by
  unfold pollDraw
  dsimp only [nextSequenceNumber]
  split
  · next packet hpacket => exact .draw _ hphase (.inl ⟨packet, rfl, hpacket⟩)
  · next error _ => exact .draw _ hphase (.inr (.inl ⟨error, rfl⟩))
  · exact .draw _ hphase (.inr (.inr rfl))

theorem polled_send {packet : Packet} (hphase : call.phase = .sending packet)
    (h : session.pollSend duplexChannel index call packet = some (next, duplexChannel')) :
    Polled session duplexChannel index call .send next duplexChannel' := by
  unfold pollSend at h
  split at h
  · simp at h
  · next hsend =>
    obtain ⟨rfl, rfl⟩ := Prod.mk.inj (Option.some.inj h)
    exact .queueClosed packet hphase (Channel.send_eq_closed_iff.mp hsend)
  · next sender hsend =>
    obtain ⟨rfl, rfl⟩ := Prod.mk.inj (Option.some.inj h)
    obtain ⟨hopen, hroom, rfl⟩ := Channel.send_eq_sent_iff.mp hsend
    exact .queue packet hphase hopen hroom

theorem polled_acquire (hphase : call.phase = .acquiring)
    (h : session.pollAcquire index call = some next) :
    Polled session duplexChannel index call .acquire next duplexChannel := by
  unfold pollAcquire at h
  split at h
  · next hcan =>
    obtain rfl := Option.some.inj h
    exact .acquire hphase hcan
  · simp at h

theorem polled_receive (hphase : call.phase = .receiving)
    (h : session.pollReceive duplexChannel index call = some (next, duplexChannel')) :
    Polled session duplexChannel index call .receive next duplexChannel' := by
  unfold pollReceive at h
  split at h
  · simp at h
  · next hrecv =>
    obtain ⟨rfl, rfl⟩ := Prod.mk.inj (Option.some.inj h)
    obtain ⟨hempty, hclosed⟩ := Channel.recv_eq_closed_iff.mp hrecv
    exact .closed hphase hempty hclosed
  · next response receiver hrecv =>
    split at h
    · next reply hreply =>
      obtain ⟨rfl, rfl⟩ := Prod.mk.inj (Option.some.inj h)
      exact .reply response receiver reply hphase hrecv hreply
    · next error herror =>
      obtain ⟨rfl, rfl⟩ := Prod.mk.inj (Option.some.inj h)
      exact .malformed response receiver _ hphase hrecv herror (by simp)
    · next hpanic =>
      obtain ⟨rfl, rfl⟩ := Prod.mk.inj (Option.some.inj h)
      exact .malformed response receiver _ hphase hrecv hpanic (by simp)

/-- The call that is polled is there, and the poll does one of the things above. -/
theorem poll_eq_some {poll : Poll}
    (h : session.poll duplexChannel index poll = some (next, duplexChannel')) :
    ∃ call, session.calls[index]? = some call ∧
      Polled session duplexChannel index call poll next duplexChannel' := by
  unfold Session.poll at h
  split at h
  · simp at h
  · next call hcall =>
    refine ⟨call, hcall, ?_⟩
    split at h
    · next hphase =>
      obtain ⟨rfl, rfl⟩ := Prod.mk.inj (Option.some.inj h)
      exact polled_checkSender hphase
    · next hphase =>
      obtain ⟨rfl, rfl⟩ := Prod.mk.inj (Option.some.inj h)
      exact .joinRead hphase
    · next hphase =>
      obtain ⟨next', hnext, heq⟩ := Option.map_eq_some_iff.mp h
      obtain ⟨rfl, rfl⟩ := Prod.mk.inj heq
      exact polled_checkReceiver hphase hnext
    · next hphase =>
      obtain ⟨rfl, rfl⟩ := Prod.mk.inj (Option.some.inj h)
      exact polled_checkComplete hphase
    · next hphase =>
      obtain ⟨rfl, rfl⟩ := Prod.mk.inj (Option.some.inj h)
      exact polled_draw hphase
    · next packet hphase => exact polled_send hphase h
    · next hphase =>
      obtain ⟨rfl, rfl⟩ := Prod.mk.inj (Option.some.inj h)
      exact .joinWrite hphase
    · next hphase =>
      obtain ⟨next', hnext, heq⟩ := Option.map_eq_some_iff.mp h
      obtain ⟨rfl, rfl⟩ := Prod.mk.inj heq
      exact polled_acquire hphase hnext
    · next hphase => exact polled_receive hphase h
    · next reply hphase =>
      obtain ⟨rfl, rfl⟩ := Prod.mk.inj (Option.some.inj h)
      exact .succeed reply hphase
    · simp at h
    · simp at h
    · next hreturned habandoned =>
      obtain ⟨rfl, rfl⟩ := Prod.mk.inj (Option.some.inj h)
      exact .abandon hreturned habandoned
    · simp at h

end Inversion

end Session

end TacacsRs.Networking
