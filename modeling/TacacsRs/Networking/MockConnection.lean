import TacacsRs.Rust.NestedMap
import TacacsRs.Networking.HandleConnection

/-!
# The mock connection

A server in the place of the network. `run` spawns `handle_connection`, which
takes the requests of the sessions off the outgoing queue and answers each with
the reply that its owner has scripted for it, if there is one. One step is a
stretch between two await points. From the removal of a reply to the end of its
turn the server holds the lock on `replies`, and `add_reply` waits for it.

A second call of `run` panics at the taken receiver and touches nothing; it is
no step. Whether `request.seq_no + 1` panics on overflow or wraps depends on the
profile that the crate is built with.
-/

namespace TacacsRs.Networking

open Rust Messages

/-- Where the task that `run` spawns stands. -/
inductive Serving where
  | notStarted
  | receiving
  | answering (request : Packet) (replySequenceNumber : UInt8)
  | recording (request reply : Packet)
  | delivering (reply : Packet)
  | sending
  | ended (result : Outcome Unit)
  deriving DecidableEq

/-- No task is there. -/
def Serving.isOver : Serving → Bool
  | .notStarted => true
  | .ended _ => true
  | _ => false

/-- The server holds the lock on `replies`. -/
def Serving.holdsReplies : Serving → Bool
  | .recording _ _ => true
  | .delivering _ => true
  | .sending => true
  | _ => false

/-- A connection whose server is a task of its own, with the replies scripted for it and the
requests it has answered. -/
structure MockConnection where
  connection : Connection
  replies : NestedMap UInt32 UInt8 Packet
  requests : NestedMap UInt32 UInt8 Packet
  serving : Serving

namespace MockConnection

/-- A connection without sessions or replies, of which `run` was not called yet. -/
def new : MockConnection := ⟨.new, ∅, ∅, .notStarted⟩

/-- What happens to a mock connection: the steps of its owners and, from `receive` to `finishSend`,
those of its server. -/
inductive Action where
  | run
  | owner (action : Connection.Action)
  | completeSession (session : Nat)
  | queueRequest (session : Nat) (request : Packet)
  | addReply (reply : Packet)
  | receive
  | takeReply
  | recordRequest
  | deliverReply
  | finishSend
  | dropConnection
  deriving DecidableEq

/-- What a step shows of the requests and of the replies. -/
inductive Event where
  | internal
  | added (reply : Packet)
  | received (request : Packet)
  | unanswered (request : Packet)
  | answered (request reply : Packet)
  | recorded (request : Packet)
  | passed (reply : Packet)
  deriving DecidableEq

/-- The keys under which a request or a reply is filed. -/
def entryKey (packet : Packet) : UInt32 × UInt8 := (packet.header.sessionId, packet.header.seqNo)

/-- The packet that `add_accounting_reply` adds. -/
def accountingReplyPacket (session : Session) (replySequenceNumber : UInt8)
    (reply : AccountingReply) : Outcome Packet :=
  let data := reply.toBytes
  (Packet.new
    { majorVersion := .tacacsPlusMajor1
      minorVersion := .tacacsPlusMinorVerDefault
      tacacsType := .tacPlusAccounting
      seqNo := replySequenceNumber
      flags := TacacsFlags.tacPlusUnencryptedFlag
      sessionId := session.sessionId
      length := UInt32.ofNat data.length } data).unwrap

/-- The error of a server whose queue has no sender left. -/
def failedToReceiveRequest : Error := .msg "Failed to receive request"

/-- A clone of the map of one session. -/
def entriesForSession (text : String) (map : NestedMap UInt32 UInt8 Packet) (sessionId : UInt32) :
    Outcome (AList fun _ : UInt8 => Packet) :=
  Outcome.ofOption text (map.lookup sessionId)

section Actions

variable (overflowChecks : Bool) (mock : MockConnection)

/-- The replies that are scripted for a session and were not taken yet. -/
def getRepliesForSession (sessionId : UInt32) : Outcome (AList fun _ : UInt8 => Packet) :=
  entriesForSession "No replies for session" mock.replies sessionId

/-- The requests of a session that were answered. -/
def getRequestsForSession (sessionId : UInt32) : Outcome (AList fun _ : UInt8 => Packet) :=
  entriesForSession "No requests for session" mock.requests sessionId

/-- `run` spawns the server; a second call panics at the taken receiver and touches nothing. -/
def run : Option MockConnection :=
  match mock.serving, mock.connection.dropped with
  | .notStarted, false => some { mock with serving := .receiving }
  | _, _ => none

/-- A step of the sessions or of `create_session`. -/
def ownerStep (action : Connection.Action) : Option MockConnection :=
  if action.byOwner then
    (mock.connection.step action).map fun connection => { mock with connection }
  else none

/-- The owner of a session completes it by himself. -/
def completeSession (index : Nat) : Option MockConnection :=
  (mock.connection.completeSession index).map fun connection => { mock with connection }

/-- What an owner queues by hand. -/
def queueRequest (index : Nat) (request : Packet) : Option MockConnection :=
  (mock.connection.queueRequest index request).map fun connection => { mock with connection }

/-- `add_reply` waits for the lock on `replies`; a reply under the same key is replaced. -/
def addReply (reply : Packet) : Option MockConnection :=
  if mock.serving.holdsReplies || mock.connection.dropped then none
  else some { mock with replies := mock.replies.insertEntry (entryKey reply) reply }

/-- The receiver of the outgoing queue goes with `handle_connection`. -/
def endServing (result : Outcome Unit) : MockConnection :=
  { mock with
    connection := mock.connection.closeOutgoing
    serving := .ended result }

/-- What `run` does when `handle_connection` has returned: the registry is cleared. -/
def clearDuplexChannels : MockConnection :=
  { mock with connection := { mock.connection with
    sessionManager := { mock.connection.sessionManager with
      duplexChannels := ∅
      sessions := mock.connection.sessionManager.sessions.map fun session =>
        { session with channel := session.channel.dropSenders } } } }

/-- One turn of the loop up to its wait for the lock on `replies`. -/
def receive : Option (MockConnection × Event) :=
  match mock.serving with
  | .receiving =>
      match mock.connection.sessionManager.outgoing.recv with
      | .pending => none
      | .closed =>
          some ((mock.endServing (.err failedToReceiveRequest)).clearDuplexChannels, .internal)
      | .received request _ =>
          (mock.connection.step .takeOutgoing).map fun connection =>
            let taken := { mock with connection }
            match Outcome.addU8 overflowChecks request.header.seqNo 1 with
            | .ok replySequenceNumber =>
                ({ taken with serving := .answering request replySequenceNumber },
                  .received request)
            | .err error => (taken.endServing (.err error), .received request)
            | .panic => (taken.endServing .panic, .received request)
  | _ => none

/-- The lock on `replies` is taken, and given back at once when no reply is there. -/
def takeReply : Option (MockConnection × Event) :=
  match mock.serving with
  | .answering request replySequenceNumber =>
      match mock.replies.removeEntry (request.header.sessionId, replySequenceNumber) with
      | none => some ({ mock with serving := .receiving }, .unanswered request)
      | some (reply, replies) =>
          some ({ mock with replies, serving := .recording request reply },
            .answered request reply)
  | _ => none

/-- The answered request is filed; an earlier one under the same key is replaced. -/
def recordRequest : Option (MockConnection × Event) :=
  match mock.serving with
  | .recording request reply =>
      some ({ mock with
        requests := mock.requests.insertEntry (entryKey request) request
        serving := .delivering reply }, .recorded request)
  | _ => none

/-- `send_message_to_session` up to its send; a reply to no session is given up at once. -/
def deliverReply : Option (MockConnection × Event) :=
  match mock.serving with
  | .delivering reply =>
      (mock.connection.step (.manage (.sendMessageToSession reply))).map fun connection =>
        ({ mock with
          connection
          serving := if connection.sessionManager.sending.isSome then .sending else .receiving },
          .passed reply)
  | _ => none

/-- The server's `send_message_to_session` gets to its end. -/
def finishSend : Option MockConnection :=
  match mock.serving with
  | .sending => (mock.connection.step (.manage .finishSend)).map fun connection =>
      { mock with connection, serving := .receiving }
  | _ => none

/-- The connection goes when its owner has dropped it and no task keeps it. -/
def dropConnection : Option MockConnection :=
  if mock.serving.isOver then
    mock.connection.free.map fun connection => { mock with connection }
  else none

/-- A step and what it shows, or `none` where the action cannot happen. -/
def step (mock : MockConnection) : Action → Option (MockConnection × Event)
  | .run => mock.run.map (·, .internal)
  | .owner action => (mock.ownerStep action).map (·, .internal)
  | .completeSession index => (mock.completeSession index).map (·, .internal)
  | .queueRequest index request => (mock.queueRequest index request).map (·, .internal)
  | .addReply reply => (mock.addReply reply).map (·, .added reply)
  | .receive => mock.receive overflowChecks
  | .takeReply => mock.takeReply
  | .recordRequest => mock.recordRequest
  | .deliverReply => mock.deliverReply
  | .finishSend => mock.finishSend.map (·, .internal)
  | .dropConnection => mock.dropConnection.map (·, .internal)

/-- Everything that can happen to a mock connection. -/
inductive Step (mock : MockConnection) : Action → MockConnection → Event → Prop where
  | run (hserving : mock.serving = .notStarted) (hpresent : mock.connection.dropped = false) :
      Step mock .run { mock with serving := .receiving } .internal
  | owner (action : Connection.Action) (connection : Connection) (howner : action.byOwner = true)
      (hstep : Connection.Step mock.connection action connection) :
      Step mock (.owner action) { mock with connection } .internal
  | completeSession (index : Nat) (session : Session)
      (hsession : mock.connection.sessions[index]? = some session) :
      Step mock (.completeSession index) { mock with connection := { mock.connection with
        sessions := mock.connection.sessions.set index session.complete } } .internal
  | queueRequest (index : Nat) (request : Packet)
      (hopen : mock.connection.sessionManager.outgoing.receiverDropped = false)
      (hroom : mock.connection.sessionManager.outgoing.HasRoom) :
      Step mock (.queueRequest index request) { mock with connection := { mock.connection with
        sessionManager := { mock.connection.sessionManager with
          outgoing := mock.connection.sessionManager.outgoing.push request hroom } } } .internal
  | addReply (reply : Packet) (hfree : mock.serving.holdsReplies = false)
      (hpresent : mock.connection.dropped = false) :
      Step mock (.addReply reply)
        { mock with replies := mock.replies.insertEntry (entryKey reply) reply } (.added reply)
  | receive (request : Packet) (outgoing : PacketChannel) (replySequenceNumber : UInt8)
      (connection : Connection) (hreceiving : mock.serving = .receiving)
      (hrecv : mock.connection.sessionManager.outgoing.recv = .received request outgoing)
      (hnumber : Outcome.addU8 overflowChecks request.header.seqNo 1 = .ok replySequenceNumber)
      (hstep : Connection.Step mock.connection .takeOutgoing connection) :
      Step mock .receive
        { mock with
          connection
          serving := .answering request replySequenceNumber } (.received request)
  | overflow (request : Packet) (outgoing : PacketChannel) (connection : Connection)
      (hreceiving : mock.serving = .receiving)
      (hrecv : mock.connection.sessionManager.outgoing.recv = .received request outgoing)
      (hpanicked : Outcome.addU8 overflowChecks request.header.seqNo 1 = .panic)
      (hstep : Connection.Step mock.connection .takeOutgoing connection) :
      Step mock .receive ({ mock with connection }.endServing .panic) (.received request)
  | closed (hreceiving : mock.serving = .receiving)
      (hclosed : mock.connection.sessionManager.outgoing.recv = .closed) :
      Step mock .receive (mock.endServing (.err failedToReceiveRequest)).clearDuplexChannels
        .internal
  | unanswered (request : Packet) (replySequenceNumber : UInt8)
      (hanswering : mock.serving = .answering request replySequenceNumber)
      (hnone : mock.replies.get (request.header.sessionId, replySequenceNumber) = none) :
      Step mock .takeReply { mock with serving := .receiving } (.unanswered request)
  | answered (request reply : Packet) (replySequenceNumber : UInt8)
      (replies : NestedMap UInt32 UInt8 Packet)
      (hanswering : mock.serving = .answering request replySequenceNumber)
      (hreply : mock.replies.get (request.header.sessionId, replySequenceNumber) = some reply)
      (hrest : replies.get =
        Function.update mock.replies.get (request.header.sessionId, replySequenceNumber) none) :
      Step mock .takeReply
        { mock with
          replies
          serving := .recording request reply } (.answered request reply)
  | recordRequest (request reply : Packet) (hrecording : mock.serving = .recording request reply) :
      Step mock .recordRequest
        { mock with
          requests := mock.requests.insertEntry (entryKey request) request
          serving := .delivering reply } (.recorded request)
  | deliverReply (reply : Packet) (connection : Connection)
      (hdelivering : mock.serving = .delivering reply)
      (hstep : Connection.Step mock.connection (.manage (.sendMessageToSession reply))
        connection) :
      Step mock .deliverReply
        { mock with
          connection
          serving := if connection.sessionManager.sending.isSome then .sending else .receiving }
        (.passed reply)
  | finishSend (connection : Connection) (hsending : mock.serving = .sending)
      (hstep : Connection.Step mock.connection (.manage .finishSend) connection) :
      Step mock .finishSend
        { mock with
          connection
          serving := .receiving } .internal
  | dropConnection (connection : Connection) (hover : mock.serving.isOver = true)
      (hstep : Connection.Step mock.connection.closeOutgoing .dropConnection connection) :
      Step mock .dropConnection { mock with connection } .internal

end Actions

section Inversion

variable {overflowChecks : Bool} {mock next : MockConnection} {event : Event}

theorem run_eq_some (h : mock.run = some next) : Step overflowChecks mock .run next .internal := by
  unfold run at h
  split at h
  · next hserving hpresent =>
    obtain rfl := Option.some.inj h
    exact .run hserving hpresent
  · simp at h

theorem ownerStep_eq_some {action : Connection.Action} (h : mock.ownerStep action = some next) :
    Step overflowChecks mock (.owner action) next .internal := by
  unfold ownerStep at h
  split at h
  · next howner =>
    obtain ⟨connection, hconnection, rfl⟩ := Option.map_eq_some_iff.mp h
    exact .owner action connection howner (Connection.step_eq_some hconnection)
  · simp at h

theorem completeSession_eq_some {index : Nat} (h : mock.completeSession index = some next) :
    Step overflowChecks mock (.completeSession index) next .internal := by
  obtain ⟨connection, hconnection, rfl⟩ := Option.map_eq_some_iff.mp h
  obtain ⟨session, hsession, rfl⟩ := Connection.completeSession_eq_some hconnection
  exact .completeSession index session hsession

theorem queueRequest_eq_some {index : Nat} {request : Packet}
    (h : mock.queueRequest index request = some next) :
    Step overflowChecks mock (.queueRequest index request) next .internal := by
  obtain ⟨connection, hconnection, rfl⟩ := Option.map_eq_some_iff.mp h
  obtain ⟨hopen, hroom, rfl⟩ := Connection.queueRequest_eq_some hconnection
  exact .queueRequest index request hopen hroom

theorem addReply_eq_some {reply : Packet} (h : mock.addReply reply = some next) :
    Step overflowChecks mock (.addReply reply) next (.added reply) := by
  unfold addReply at h
  split at h
  · simp at h
  · next hallowed =>
    rw [Bool.not_eq_true, Bool.or_eq_false_iff] at hallowed
    obtain rfl := Option.some.inj h
    exact .addReply reply hallowed.1 hallowed.2

theorem receive_eq_some (h : mock.receive overflowChecks = some (next, event)) :
    Step overflowChecks mock .receive next event := by
  unfold receive at h
  split at h
  · next hreceiving =>
    split at h
    · simp at h
    · next hclosed =>
      obtain ⟨rfl, rfl⟩ := Prod.mk.inj (Option.some.inj h)
      exact .closed hreceiving hclosed
    · next request outgoing hrecv =>
      obtain ⟨connection, hconnection, hnext⟩ := Option.map_eq_some_iff.mp h
      have hstep := Connection.step_eq_some hconnection
      dsimp only at hnext
      split at hnext
      · next replySequenceNumber hnumber =>
        obtain ⟨rfl, rfl⟩ := Prod.mk.inj hnext
        exact .receive request outgoing replySequenceNumber connection hreceiving hrecv hnumber
          hstep
      · next error herror => exact absurd herror (Outcome.addU8_ne_err _ _ _ error)
      · next hpanicked =>
        obtain ⟨rfl, rfl⟩ := Prod.mk.inj hnext
        exact .overflow request outgoing connection hreceiving hrecv hpanicked hstep
  · simp at h

theorem takeReply_eq_some (h : mock.takeReply = some (next, event)) :
    Step overflowChecks mock .takeReply next event := by
  unfold takeReply at h
  split at h
  · next request replySequenceNumber hanswering =>
    split at h
    · next hremove =>
      obtain ⟨rfl, rfl⟩ := Prod.mk.inj (Option.some.inj h)
      exact .unanswered request replySequenceNumber hanswering
        (NestedMap.removeEntry_eq_none_iff.mp hremove)
    · next reply replies hremove =>
      obtain ⟨rfl, rfl⟩ := Prod.mk.inj (Option.some.inj h)
      obtain ⟨hreply, hrest⟩ := NestedMap.removeEntry_eq_some hremove
      exact .answered request reply replySequenceNumber replies hanswering hreply hrest
  · simp at h

theorem recordRequest_eq_some (h : mock.recordRequest = some (next, event)) :
    Step overflowChecks mock .recordRequest next event := by
  unfold recordRequest at h
  split at h
  · next request reply hrecording =>
    obtain ⟨rfl, rfl⟩ := Prod.mk.inj (Option.some.inj h)
    exact .recordRequest request reply hrecording
  · simp at h

theorem deliverReply_eq_some (h : mock.deliverReply = some (next, event)) :
    Step overflowChecks mock .deliverReply next event := by
  unfold deliverReply at h
  split at h
  · next reply hdelivering =>
    obtain ⟨connection, hconnection, hnext⟩ := Option.map_eq_some_iff.mp h
    obtain ⟨rfl, rfl⟩ := Prod.mk.inj hnext
    exact .deliverReply reply connection hdelivering (Connection.step_eq_some hconnection)
  · simp at h

theorem finishSend_eq_some (h : mock.finishSend = some next) :
    Step overflowChecks mock .finishSend next .internal := by
  unfold finishSend at h
  split at h
  · next hsending =>
    obtain ⟨connection, hconnection, rfl⟩ := Option.map_eq_some_iff.mp h
    exact .finishSend connection hsending (Connection.step_eq_some hconnection)
  · simp at h

theorem dropConnection_eq_some (h : mock.dropConnection = some next) :
    Step overflowChecks mock .dropConnection next .internal := by
  unfold dropConnection at h
  split at h
  · next hover =>
    obtain ⟨connection, hconnection, rfl⟩ := Option.map_eq_some_iff.mp h
    exact .dropConnection connection hover (Connection.step_eq_some hconnection)
  · simp at h

/-- A step that shows one event whatever it does. -/
theorem of_map_event {stepped : Option MockConnection} {shown : Event} {action : Action}
    (h : stepped.map (·, shown) = some (next, event))
    (hstep : ∀ {next}, stepped = some next → Step overflowChecks mock action next shown) :
    Step overflowChecks mock action next event := by
  obtain ⟨found, hfound, hnext⟩ := Option.map_eq_some_iff.mp h
  obtain ⟨rfl, rfl⟩ := Prod.mk.inj hnext
  exact hstep hfound

theorem step_eq_some {action : Action} (h : mock.step overflowChecks action = some (next, event)) :
    Step overflowChecks mock action next event := by
  cases action with
  | run => exact of_map_event h run_eq_some
  | owner action => exact of_map_event h ownerStep_eq_some
  | completeSession index => exact of_map_event h completeSession_eq_some
  | queueRequest index request => exact of_map_event h queueRequest_eq_some
  | addReply reply => exact of_map_event h addReply_eq_some
  | receive => exact receive_eq_some h
  | takeReply => exact takeReply_eq_some h
  | recordRequest => exact recordRequest_eq_some h
  | deliverReply => exact deliverReply_eq_some h
  | finishSend => exact of_map_event h finishSend_eq_some
  | dropConnection => exact of_map_event h dropConnection_eq_some

end Inversion

/-- The packet is always made, and filed under the session's id and the given number. -/
theorem accountingReplyPacket_eq_ok (session : Session) (replySequenceNumber : UInt8)
    (reply : AccountingReply) :
    ∃ packet, accountingReplyPacket session replySequenceNumber reply = .ok packet ∧
      entryKey packet = (session.sessionId, replySequenceNumber) ∧
      packet.body = reply.toBytes := by
  refine ⟨_, Outcome.unwrap_eq_ok_iff.mpr (Packet.new_eq_ok_iff.mpr ⟨?_, rfl⟩), rfl, rfl⟩
  exact Nat.mod_le _ _

theorem lookup_of_entriesForSession {text : String} {map : NestedMap UInt32 UInt8 Packet}
    {sessionId : UInt32} {entries : AList fun _ : UInt8 => Packet}
    (h : entriesForSession text map sessionId = .ok entries) (sequenceNumber : UInt8) :
    entries.lookup sequenceNumber = map.get (sessionId, sequenceNumber) := by
  rw [entriesForSession, Outcome.ofOption_eq_ok_iff] at h
  exact (NestedMap.get_of_lookup h sequenceNumber).symm

/-- A server that is there keeps its connection, and the lookup of `send_message_to_session` is
followed by its send before anything else is looked up. -/
structure Served (mock : MockConnection) : Prop where
  senders : mock.connection.sessionManager.outgoing.sendersDropped = false
  present : mock.serving.isOver = false → mock.connection.dropped = false
  idle : mock.serving ≠ .sending → mock.connection.sessionManager.sending = none

theorem served_new : Served new where
  senders := rfl
  present := fun _ => rfl
  idle := fun _ => rfl

section Served

variable {overflowChecks : Bool} {mock next : MockConnection} {action : Action} {event : Event}

/-- The server answers what it has just received, under the next number. -/
theorem Step.answering_cases {request : Packet} {replySequenceNumber : UInt8}
    (h : Step overflowChecks mock action next event)
    (hanswering : next.serving = .answering request replySequenceNumber) :
    mock.serving = .answering request replySequenceNumber ∨
      action = .receive ∧ ∃ outgoing,
        mock.connection.sessionManager.outgoing.recv = .received request outgoing ∧
        Outcome.addU8 overflowChecks request.header.seqNo 1 = .ok replySequenceNumber := by
  cases h with
  | owner | completeSession | queueRequest | addReply | dropConnection => exact .inl hanswering
  | receive request' outgoing replySequenceNumber' connection hreceiving hrecv hnumber =>
      obtain ⟨rfl, rfl⟩ : request' = request ∧ replySequenceNumber' = replySequenceNumber := by
        simpa using hanswering
      exact .inr ⟨rfl, outgoing, hrecv, hnumber⟩
  | deliverReply reply connection hdelivering =>
      dsimp only at hanswering
      split at hanswering <;> simp at hanswering
  | run | unanswered | answered | recordRequest | finishSend => simp at hanswering
  | overflow | closed => simp [endServing, clearDuplexChannels] at hanswering

/-- Nothing but the addition makes the server panic. -/
theorem Step.panicked_cases (h : Step overflowChecks mock action next event)
    (hpanicked : next.serving = .ended .panic) :
    mock.serving = .ended .panic ∨
      action = .receive ∧ ∃ request outgoing,
        mock.connection.sessionManager.outgoing.recv = .received request outgoing ∧
        Outcome.addU8 overflowChecks request.header.seqNo 1 = .panic := by
  cases h with
  | owner | completeSession | queueRequest | addReply | dropConnection => exact .inl hpanicked
  | overflow request outgoing connection hreceiving hrecv hoverflow =>
      exact .inr ⟨rfl, request, outgoing, hrecv, hoverflow⟩
  | deliverReply reply connection hdelivering =>
      dsimp only at hpanicked
      split at hpanicked <;> simp at hpanicked
  | run | receive | unanswered | answered | recordRequest | finishSend => simp at hpanicked
  | closed => simp [endServing, clearDuplexChannels] at hpanicked

/-- The connection keeps a sender, so `recv` never comes back empty-handed. -/
theorem Served.recv_ne_closed (h : mock.Served) :
    mock.connection.sessionManager.outgoing.recv ≠ .closed := by
  intro hclosed
  have hdropped := (Channel.recv_eq_closed_iff.mp hclosed).2
  rw [h.senders] at hdropped
  simp at hdropped

/-- A step of the connection that is no send of a reply and no drop leaves the server what it
relies on. -/
theorem Served.connection {connection : Connection} {connectionAction : Connection.Action}
    {serving : Serving} (h : mock.Served)
    (hstep : Connection.Step mock.connection connectionAction connection)
    (hdrop : connectionAction ≠ .dropConnection)
    (hsend : ∀ packet, connectionAction ≠ .manage (.sendMessageToSession packet))
    (hover : serving.isOver = false → mock.serving.isOver = false)
    (hsending : serving ≠ .sending → mock.serving ≠ .sending) :
    Served { mock with connection, serving } where
  senders := hstep.outgoing_sendersDropped_eq.trans h.senders
  present := fun hthere => (hstep.dropped_eq hdrop).trans (h.present (hover hthere))
  idle := fun hidle => hstep.sending_eq_none (h.idle (hsending hidle)) hsend

/-- What the server does between a receive and a send is to the two maps. -/
theorem Served.turn {replies requests : NestedMap UInt32 UInt8 Packet} {serving : Serving}
    (h : mock.Served) (hthere : mock.serving.isOver = false) (hidle : mock.serving ≠ .sending) :
    Served { mock with replies, requests, serving } where
  senders := h.senders
  present := fun _ => h.present hthere
  idle := fun _ => h.idle hidle

theorem Served.step (h : mock.Served) (hstep : Step overflowChecks mock action next event) :
    next.Served := by
  cases hstep with
  | run hserving hpresent =>
      refine ⟨h.senders, fun _ => hpresent, fun _ => h.idle ?_⟩
      rw [hserving]
      simp
  | owner action connection howner hstep =>
      refine h.connection hstep ?_ ?_ id id
      · rintro rfl
        simp [Connection.Action.byOwner] at howner
      · rintro packet rfl
        simp [Connection.Action.byOwner] at howner
  | completeSession | queueRequest | addReply => exact ⟨h.senders, h.present, h.idle⟩
  | receive request outgoing replySequenceNumber connection hreceiving hrecv hnumber hstep =>
      refine h.connection hstep (by simp) (by simp) ?_ ?_ <;> simp [hreceiving, Serving.isOver]
  | overflow request outgoing connection hreceiving hrecv hpanicked hstep =>
      have htaken : Served { mock with connection } :=
        h.connection hstep (by simp) (by simp) id id
      exact ⟨htaken.senders, by simp [endServing, Serving.isOver],
        fun _ => htaken.idle (by simp [hreceiving])⟩
  | closed hreceiving hclosed => exact absurd hclosed h.recv_ne_closed
  | unanswered request replySequenceNumber hanswering =>
      exact h.turn (by simp [hanswering, Serving.isOver]) (by simp [hanswering])
  | answered request reply replySequenceNumber replies hanswering =>
      exact h.turn (by simp [hanswering, Serving.isOver]) (by simp [hanswering])
  | recordRequest request reply hrecording =>
      exact h.turn (by simp [hrecording, Serving.isOver]) (by simp [hrecording])
  | deliverReply reply connection hdelivering hstep =>
      have hthere : mock.serving.isOver = false := by simp [hdelivering, Serving.isOver]
      refine ⟨hstep.outgoing_sendersDropped_eq.trans h.senders, fun _ => ?_, fun hidle => ?_⟩
      · exact (hstep.dropped_eq (by simp)).trans (h.present hthere)
      · by_contra hsending
        rw [← ne_eq, ← Option.isSome_iff_ne_none] at hsending
        simp [hsending] at hidle
  | finishSend connection hsending hstep =>
      have hthere : mock.serving.isOver = false := by simp [hsending, Serving.isOver]
      refine ⟨hstep.outgoing_sendersDropped_eq.trans h.senders, fun _ => ?_, fun _ => ?_⟩
      · exact (hstep.dropped_eq (by simp)).trans (h.present hthere)
      · cases hstep with
        | manage action manager event hpresent howner hstep =>
            cases hstep with
            | deliver | fail => rfl
  | dropConnection connection hover hstep =>
      have hclosed : Served { mock with connection := mock.connection.closeOutgoing } :=
        h.connection .closeOutgoing (by simp) (by simp) id id
      refine ⟨hstep.outgoing_sendersDropped_eq.trans hclosed.senders, ?_, fun hidle => ?_⟩
      · simp [hover]
      · exact hstep.sending_eq_none (hclosed.idle hidle) (by simp)

end Served

end MockConnection

end TacacsRs.Networking
